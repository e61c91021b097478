import Dalph.Workflow.ReplacementEvents
import Dalph.WorkflowJournal.PresentedHistory

/-!
# Planning of attempts

Three writers record plans: the fresh workflow, Restart and result recovery.  Each counts the
attempts planned so far and asks the deterministic planner for the plan of that ordinal.
-/

namespace Dalph

def recordedPlan? (record : JournalRecord) : Option PlannedAttemptOperation :=
  match record.event with
  | .taskAttemptPlanned operation => some operation
  | .plannedAttemptReplaced event => some event.successorPlan
  | .resultRecoveryAttemptReplaced event => some event.successorPlan
  | _ => none

def sortedByPosition (records : List JournalRecord) : List JournalRecord :=
  records.insertionSort fun left right => left.position ≤ right.position

def recordedTaskAttemptPlans (source : JournalHistorySource) : List PlannedAttemptOperation :=
  let candidates :=
    match source with
    | .raw records => records
    | .indexed _ =>
        sortedByPosition (journalRecordsOfKind .taskAttemptPlanned source ++
          journalRecordsOfKind .plannedAttemptReplaced source ++
          journalRecordsOfKind .resultRecoveryAttemptReplaced source)
  candidates.filterMap recordedPlan?

/-- The recordings of an attempt's plan; a plain list is searched whole. -/
def recordedPlansForAttempt (source : JournalHistorySource) (attemptId : AttemptId) :
    List PlannedAttemptOperation :=
  match source with
  | .raw _ => recordedTaskAttemptPlans source
  | .indexed _ =>
      recordedTaskAttemptPlans (.raw (sortedByPosition
        (journalRecordsForAttemptKind attemptId .taskAttemptPlanned source ++
          journalRecordsForAttemptKind attemptId .plannedAttemptReplaced source ++
          journalRecordsForAttemptKind attemptId .resultRecoveryAttemptReplaced source)))

def recordedTaskAttemptPlanFor (source : JournalHistorySource)
    (plannedAttempt : PlannedTaskAttempt) : Option PlannedAttemptOperation :=
  (recordedPlansForAttempt source plannedAttempt.attemptId).find? fun plan =>
    plan.plannedAttempt.attemptId = plannedAttempt.attemptId &&
      plannedTaskAttemptEquivalence plan.plannedAttempt plannedAttempt

inductive AttemptPlanWriter where
  | freshWorkflow
  | restart
  | resultRecovery
deriving DecidableEq

def freshAttemptOrdinal (source : JournalHistorySource) (taskId : TaskId) : Nat :=
  ((recordedTaskAttemptPlans source).filter fun plan => plan.plannedAttempt.taskId = taskId).length

def recordedAttemptForTask (taskId : TaskId) (record : JournalRecord) : Bool :=
  match record.event with
  | .taskAttemptPlanned operation => operation.plannedAttempt.taskId = taskId
  | .plannedAttemptReplaced event => event.successorPlan.plannedAttempt.taskId = taskId
  | _ => false

def recordedAttemptCountForTask (source : JournalHistorySource) (taskId : TaskId) : Nat :=
  ((journalRecordsForTask taskId source).filter (recordedAttemptForTask taskId)).length

/-- The ordinal of a result-recovery replacement counts the plan events among the task's records. -/
def resultRecoveryAttemptOrdinal (source : JournalHistorySource) (taskId : TaskId) : Nat :=
  ((journalRecordsForTask taskId source).filter fun record => (recordedPlan? record).isSome).length

def nextAttemptOrdinal : AttemptPlanWriter → JournalHistorySource → TaskId → Nat
  | .freshWorkflow => freshAttemptOrdinal
  | .restart => recordedAttemptCountForTask
  | .resultRecovery => resultRecoveryAttemptOrdinal

structure PlannedWorkSpecification where
  taskId : TaskId
  fingerprint : TaskRevision
deriving DecidableEq

inductive PlannedTaskAttemptPlanRequest where
  | exactReplacement (baseSha : GitCommitSha) (ordinal : Nat)
      (specification : PlannedWorkSpecification)
  | fresh (baseSha : GitCommitSha) (ordinal : Nat) (specification : PlannedWorkSpecification)
deriving DecidableEq

namespace PlannedTaskAttemptPlanRequest

def baseSha : PlannedTaskAttemptPlanRequest → GitCommitSha
  | exactReplacement baseSha _ _ => baseSha
  | fresh baseSha _ _ => baseSha

def ordinal : PlannedTaskAttemptPlanRequest → Nat
  | exactReplacement _ ordinal _ => ordinal
  | fresh _ ordinal _ => ordinal

def specification : PlannedTaskAttemptPlanRequest → PlannedWorkSpecification
  | exactReplacement _ _ specification => specification
  | fresh _ _ specification => specification

def replaces : PlannedTaskAttemptPlanRequest → Bool
  | exactReplacement _ _ _ => true
  | fresh _ _ _ => false

end PlannedTaskAttemptPlanRequest

structure DeterministicPlannedTaskAttemptOptions where
  executor : String
  runId : RunId
  worktreeRoot : String
  /-- Replacements take their slots from a namespace of their own. -/
  separateReplacementNamespace : Bool
deriving DecidableEq

def uriUnreserved (character : Char) : Bool :=
  character.isAlphanum || character ∈ "-_.!~*'()".toList

def percentEncoded (byte : UInt8) : List Char :=
  ['%', Nat.digitChar (byte.toNat / 16), Nat.digitChar (byte.toNat % 16)].map Char.toUpper

/-- `encodeURIComponent`: every other character becomes the percent-encoded bytes of its UTF-8. -/
def encodeURIComponent (text : String) : String :=
  String.ofList (text.toList.flatMap fun character =>
    if uriUnreserved character then [character]
    else (String.utf8EncodeChar character).flatMap percentEncoded)

def invalidRefCharacter (character : Char) : Bool :=
  character.toNat ≤ 0x20 || character.toNat = 0x7f || character ∈ "~^:?*[\\".toList

def hasInvalidTaskBranchShape (ref : List Char) : Bool :=
  "..".toList <:+: ref || "//".toList <:+: ref || ['@', Char.ofNat 0x7b] <:+: ref ||
    "/".toList <:+ ref || ".".toList <:+ ref

def isValidTaskBranchComponent (component : List Char) : Bool :=
  !(".".toList <+: component) && !(".lock".toList <:+ component)

def isValidTaskBranchRef (ref : String) : Bool :=
  let characters := ref.toList
  "refs/heads/".toList <+: characters && ref ≠ "refs/heads/" &&
    !hasInvalidTaskBranchShape characters && !(characters.any invalidRefCharacter) &&
    (characters.splitOn '/').all isValidTaskBranchComponent

def withoutColons (text : String) : String :=
  String.ofList (text.toList.map fun character => if character = ':' then '-' else character)

namespace DeterministicPlannedTaskAttemptOptions

variable (options : DeterministicPlannedTaskAttemptOptions)

def identitySlot (request : PlannedTaskAttemptPlanRequest) : String :=
  if request.replaces && options.separateReplacementNamespace then
    "replacement:" ++ toString request.ordinal
  else toString request.ordinal

def resourceSegment (request : PlannedTaskAttemptPlanRequest) : String :=
  "attempt-" ++ encodeURIComponent request.specification.taskId.value ++ "-" ++
    withoutColons (options.identitySlot request)

def planned (request : PlannedTaskAttemptPlanRequest) : PlannedTaskAttempt where
  attemptId :=
    ⟨"attempt:" ++ request.specification.taskId.value ++ ":" ++ options.identitySlot request⟩
  baseSha := request.baseSha
  branch := "refs/heads/dalph/" ++ options.resourceSegment request
  executor := options.executor
  runId := options.runId
  taskId := request.specification.taskId
  taskRevision := request.specification.fingerprint
  worktree := options.worktreeRoot ++ "/" ++ options.resourceSegment request

def plan (request : PlannedTaskAttemptPlanRequest) : Option PlannedTaskAttempt :=
  if isValidTaskBranchRef (options.planned request).branch then some (options.planned request)
  else none

theorem planned_of_plan {request : PlannedTaskAttemptPlanRequest} {attempt : PlannedTaskAttempt}
    (planned : options.plan request = some attempt) : attempt = options.planned request := by
  unfold plan at planned
  split at planned
  · exact (Option.some.inj planned).symm
  · contradiction

end DeterministicPlannedTaskAttemptOptions

theorem withoutColons_toString (number : Nat) :
    withoutColons (toString number) = toString number := by
  rw [withoutColons, ← String.toList_inj, String.toList_ofList]
  have kept : ∀ character ∈ (toString number).toList,
      (if character = ':' then '-' else character) = id character := by
    intro character member
    have other : character ≠ ':' := fun colon =>
      TextKey.colon_not_mem_toString number (by rwa [← colon])
    rw [if_neg other, id]
  rw [List.map_congr_left kept, List.map_id]

theorem withoutColons_replacement (number : Nat) :
    withoutColons ("replacement:" ++ toString number) = "replacement-" ++ toString number := by
  have digits := congrArg String.toList (withoutColons_toString number)
  rw [withoutColons, String.toList_ofList] at digits
  rw [withoutColons, ← String.toList_inj, String.toList_ofList, String.toList_append, List.map_append,
    digits, String.toList_append]
  rfl

theorem replacement_ne_toString (number other : Nat) :
    "replacement-" ++ toString number ≠ toString other := by
  intro same
  have text := congrArg String.toList same
  have begins : 'r' ∈ (toString other).toList := by
    rw [← text, String.toList_append]
    exact List.mem_append_left _ (by decide)
  have digits : 'r' ∈ Nat.toDigits 10 other := by simpa [toString, Nat.repr] using begins
  exact absurd (Nat.isDigit_of_mem_toDigits (by decide) (by decide) digits) (by decide)

namespace DeterministicPlannedTaskAttemptOptions

variable {options : DeterministicPlannedTaskAttemptOptions}
  {request other : PlannedTaskAttemptPlanRequest}

theorem ordinal_eq_of_slot
    (same : withoutColons (options.identitySlot request) =
      withoutColons (options.identitySlot other)) :
    request.ordinal = other.ordinal := by
  unfold identitySlot at same
  split at same <;> split at same <;>
    simp only [withoutColons_toString, withoutColons_replacement] at same
  · exact Nat.repr_injective (String.append_right_inj _ |>.mp same)
  · exact absurd same (replacement_ne_toString _ _)
  · exact absurd same.symm (replacement_ne_toString _ _)
  · exact Nat.repr_injective same

end DeterministicPlannedTaskAttemptOptions

def DistinctResources (left right : PlannedTaskAttempt) : Prop :=
  left.attemptId ≠ right.attemptId ∧ left.branch ≠ right.branch ∧ left.worktree ≠ right.worktree

theorem planned_distinct {options : DeterministicPlannedTaskAttemptOptions}
    {request other : PlannedTaskAttemptPlanRequest}
    (task : request.specification.taskId = other.specification.taskId)
    (ordinals : request.ordinal ≠ other.ordinal) :
    DistinctResources (options.planned request) (options.planned other) := by
  have segments : options.resourceSegment request ≠ options.resourceSegment other := by
    intro same
    rw [DeterministicPlannedTaskAttemptOptions.resourceSegment,
      DeterministicPlannedTaskAttemptOptions.resourceSegment, task, String.append_right_inj] at same
    exact ordinals (DeterministicPlannedTaskAttemptOptions.ordinal_eq_of_slot same)
  refine ⟨fun same => ?_, fun same => segments ?_, fun same => segments ?_⟩
  · have slots := congrArg AttemptId.value same
    simp only [DeterministicPlannedTaskAttemptOptions.planned, task, String.append_right_inj]
      at slots
    exact ordinals
      (DeterministicPlannedTaskAttemptOptions.ordinal_eq_of_slot (congrArg withoutColons slots))
  · exact (String.append_right_inj _).mp same
  · exact (String.append_right_inj _).mp same

def plansFor (taskId : TaskId) (record : JournalRecord) : Bool :=
  (recordedPlan? record).any fun plan => plan.plannedAttempt.taskId = taskId

def attemptPlannedFor? (taskId : TaskId) (record : JournalRecord) : Option PlannedTaskAttempt :=
  ((recordedPlan? record).map (·.plannedAttempt)).filter fun attempt => attempt.taskId = taskId

def attemptsPlannedFor (records : List JournalRecord) (taskId : TaskId) :
    List PlannedTaskAttempt :=
  records.filterMap (attemptPlannedFor? taskId)

def ReplacementsDecoded (records : List JournalRecord) : Prop :=
  ∀ record ∈ records, invalidPlanEvent record.event = none

def WithoutRecoveryReplacement (records : List JournalRecord) (taskId : TaskId) : Prop :=
  ∀ record ∈ records, plansFor taskId record = true →
    record.event.tag ≠ .resultRecoveryAttemptReplaced

section Records

variable {record : JournalRecord} {plan : PlannedAttemptOperation} {taskId : TaskId}

theorem plansFor_iff : plansFor taskId record = true ↔
    ∃ plan, recordedPlan? record = some plan ∧ plan.plannedAttempt.taskId = taskId := by
  simp [plansFor, Option.any_eq_true]

theorem recordedPlan?_cases (recorded : recordedPlan? record = some plan) :
    record.event = .taskAttemptPlanned plan ∨
      (∃ event, record.event = .plannedAttemptReplaced event ∧ event.successorPlan = plan) ∨
      ∃ event, record.event = .resultRecoveryAttemptReplaced event ∧
        event.successorPlan = plan := by
  unfold recordedPlan? at recorded
  split at recorded <;> simp_all

theorem named_of_recordedPlan (recorded : (recordedPlan? record).isSome = true) :
    priorFullObservationOperationId? record = none := by
  obtain ⟨plan, recorded⟩ := Option.isSome_iff_exists.mp recorded
  obtain event | ⟨_, event, -⟩ | ⟨_, event, -⟩ := recordedPlan?_cases recorded <;>
    simp [priorFullObservationOperationId?, event]

theorem mem_taskIdsOf_of_recordedPlan (recorded : recordedPlan? record = some plan)
    (decoded : invalidPlanEvent record.event = none) :
    taskId ∈ taskIdsOf record none ↔ taskId = plan.plannedAttempt.taskId := by
  obtain event | ⟨replaced, event, rfl⟩ | ⟨replaced, event, rfl⟩ := recordedPlan?_cases recorded
  · simp [taskIdsOf, namedTaskIds, graphObservationTaskIds, event, WorkflowJournalEvent.tag,
      replacementKinds, baselineKinds, WorkflowJournalEvent.object, operationObject,
      WorkflowOperation.object, PlannedAttemptOperation.object, PlannedTaskAttempt.object, field,
      List.lookup, taskId?, text]
    exact Eq.symm
  · rw [event] at decoded
    have task := replacement_keeps_task decoded
    simp [taskIdsOf, namedTaskIds, graphObservationTaskIds, event, WorkflowJournalEvent.tag,
      replacementKinds, baselineKinds, WorkflowJournalEvent.object, AttemptChoiceSubject.object,
      PlannedAttemptOperation.object, PlannedTaskAttempt.object, field, List.lookup, taskId?, text,
      ← task]
    exact Eq.symm
  · rw [event] at decoded
    have task := resultReplacement_keeps_task decoded
    simp [taskIdsOf, namedTaskIds, graphObservationTaskIds, event, WorkflowJournalEvent.tag,
      replacementKinds, baselineKinds, WorkflowJournalEvent.object, ResultRecoverySubject.object,
      PlannedAttemptOperation.object, PlannedTaskAttempt.object, field, List.lookup, taskId?, text,
      ← task]
    exact Eq.symm

theorem recordedAttemptForTask_eq : recordedAttemptForTask taskId record =
    (plansFor taskId record && decide (record.event.tag ≠ .resultRecoveryAttemptReplaced)) := by
  unfold recordedAttemptForTask plansFor recordedPlan?
  split <;> simp_all [WorkflowJournalEvent.tag]
  split <;> simp_all

end Records

theorem plan_kinds_perm (records : List JournalRecord) :
    ((records.filter fun record => record.event.tag = .taskAttemptPlanned) ++
      (records.filter fun record => record.event.tag = .plannedAttemptReplaced) ++
      records.filter fun record => record.event.tag = .resultRecoveryAttemptReplaced).Perm
        (records.filter fun record => (recordedPlan? record).isSome) := by
  induction records with
  | nil => exact .nil
  | cons record rest induction =>
      rw [List.append_assoc] at induction
      have kinds : (recordedPlan? record).isSome = true ↔
          record.event.tag = .taskAttemptPlanned ∨ record.event.tag = .plannedAttemptReplaced ∨
            record.event.tag = .resultRecoveryAttemptReplaced := by
        unfold recordedPlan?
        split <;> simp_all [WorkflowJournalEvent.tag]
        cases recorded : record.event <;> simp_all
      by_cases plans : (recordedPlan? record).isSome = true
      · obtain kind | kind | kind := kinds.mp plans <;>
          simp only [List.filter_cons, kind, plans, List.append_assoc, List.cons_append, if_true,
            reduceCtorEq, decide_false, decide_true, Bool.false_eq_true, if_false]
        · exact induction.cons record
        · exact List.perm_middle.trans (induction.cons record)
        · exact ((List.perm_middle.append_left _).trans List.perm_middle).trans
            (induction.cons record)
      · have others := mt kinds.mpr plans
        simp only [not_or] at others
        simp only [List.filter_cons, others.1, others.2.1, others.2.2, plans, decide_false,
          Bool.false_eq_true, if_false, List.append_assoc]
        exact induction

variable {source : JournalHistorySource} {records : List JournalRecord}

theorem recordedTaskAttemptPlans_perm (presents : Presents source records) :
    (recordedTaskAttemptPlans source).Perm (records.filterMap recordedPlan?) := by
  have only_plans : (records.filter fun record => (recordedPlan? record).isSome).filterMap
      recordedPlan? = records.filterMap recordedPlan? := by
    rw [List.filterMap_filter]
    refine List.filterMap_congr fun record _ => ?_
    cases recordedPlan? record <;> rfl
  cases source with
  | raw =>
      cases presents
      exact .refl _
  | indexed evidence =>
      simp only [recordedTaskAttemptPlans, presents.recordsOfKind]
      rw [← only_plans]
      exact ((List.perm_insertionSort _ _).trans (plan_kinds_perm records)).filterMap _

theorem length_attemptsPlannedFor (records : List JournalRecord) (taskId : TaskId) :
    (attemptsPlannedFor records taskId).length = (records.filter (plansFor taskId)).length := by
  rw [attemptsPlannedFor, List.length_filterMap_eq_countP, List.countP_eq_length_filter]
  congr 2
  funext record
  cases plan : recordedPlan? record <;>
    simp [attemptPlannedFor?, plansFor, plan, Option.isSome_filter]

section

variable (presents : Presents source records)
include presents

theorem freshAttemptOrdinal_eq (taskId : TaskId) :
    freshAttemptOrdinal source taskId = (attemptsPlannedFor records taskId).length := by
  have counted := ((recordedTaskAttemptPlans_perm presents).filter
    fun plan => plan.plannedAttempt.taskId = taskId).length_eq
  rw [freshAttemptOrdinal, counted, List.filter_filterMap, length_attemptsPlannedFor,
    List.length_filterMap_eq_countP, List.countP_eq_length_filter]
  congr 2
  funext record
  cases plan : recordedPlan? record <;> simp [plansFor, plan, Option.isSome_filter]

variable (decoded : ReplacementsDecoded records) (taskId : TaskId)
include decoded

theorem recordedAttemptCountForTask_eq :
    recordedAttemptCountForTask source taskId =
      ((records.filter (plansFor taskId)).filter fun record =>
        record.event.tag ≠ .resultRecoveryAttemptReplaced).length := by
  have selects : ∀ record, recordedAttemptForTask taskId record = true →
      plansFor taskId record = true := fun record selected => by
    rw [recordedAttemptForTask_eq, Bool.and_eq_true] at selected
    exact selected.1
  have named : ∀ record, recordedAttemptForTask taskId record = true →
      priorFullObservationOperationId? record = none := fun record selected => by
    obtain ⟨plan, recorded, -⟩ := plansFor_iff.mp (selects record selected)
    exact named_of_recordedPlan (by rw [recorded, Option.isSome_some])
  rw [recordedAttemptCountForTask, presents.recordsForTask_filter taskId named, List.filter_filter]
  congr 1
  refine List.filter_congr fun record member => ?_
  rw [recordedAttemptForTask_eq, Bool.and_comm (decide _) (plansFor taskId record)]
  by_cases plans : plansFor taskId record = true
  · obtain ⟨plan, recorded, task⟩ := plansFor_iff.mp plans
    have concerned := (mem_taskIdsOf_of_recordedPlan recorded (decoded record member)).mpr task.symm
    simp [concerned]
  · simp [plans]

theorem resultRecoveryAttemptOrdinal_eq :
    resultRecoveryAttemptOrdinal source taskId = (attemptsPlannedFor records taskId).length := by
  rw [resultRecoveryAttemptOrdinal,
    presents.recordsForTask_filter taskId fun record recorded => named_of_recordedPlan recorded,
    length_attemptsPlannedFor]
  congr 1
  refine List.filter_congr fun record member => ?_
  cases recorded : recordedPlan? record with
  | none => simp [plansFor, recorded]
  | some plan =>
      simp [plansFor, recorded, mem_taskIdsOf_of_recordedPlan recorded (decoded record member),
        eq_comm]

theorem ordinals_agree_iff :
    (∀ writer, nextAttemptOrdinal writer source taskId =
      (attemptsPlannedFor records taskId).length) ↔ WithoutRecoveryReplacement records taskId := by
  have restart : recordedAttemptCountForTask source taskId =
      (attemptsPlannedFor records taskId).length ↔ WithoutRecoveryReplacement records taskId := by
    rw [recordedAttemptCountForTask_eq presents decoded, length_attemptsPlannedFor,
      List.length_filter_eq_length_iff]
    simp only [List.mem_filter, decide_eq_true_iff, and_imp, WithoutRecoveryReplacement]
  constructor
  · intro agree
    exact restart.mp (agree .restart)
  · intro without writer
    cases writer with
    | freshWorkflow => exact freshAttemptOrdinal_eq presents taskId
    | restart => exact restart.mpr without
    | resultRecovery => exact resultRecoveryAttemptOrdinal_eq presents decoded taskId

end

end Dalph
