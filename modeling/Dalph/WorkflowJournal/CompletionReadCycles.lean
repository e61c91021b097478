import Dalph.Foundation.RightmostTree
import Dalph.Foundation.SequenceIndex
import Dalph.Foundation.TextKey
import Dalph.Workflow.EventObject
import Dalph.WorkflowJournal.Record

/-!
# Cycles of completion reads

A completion request may read tracker facts many times for one purpose.  Each exact scope keeps one
state after each of its reads, so the state at any cutoff is found by its position.  The unresolved
intents of a state stand in a tree of rightmost items, and the latest of them is read at its root.
-/

namespace Dalph

open PersistentSequence (Increasing)
open RightmostTree (rightmost)

/-! ## Completion reads -/

inductive CompletionReadPurposeTag where
  | authorization
  | confirmation
deriving DecidableEq

def CompletionReadPurposeTag.text : CompletionReadPurposeTag → String
  | authorization => "Authorization"
  | confirmation => "Confirmation"

structure CompletionTaskFocusedReadPurpose where
  tag : CompletionReadPurposeTag
  attemptOrdinal : Nat
  /-- Number of the read among the authorizations, or among the confirmations. -/
  ordinal : Nat
deriving DecidableEq

def ordinal? (value : Option Json) : Option Nat := do
  let ordinal ← integer value
  if 1 ≤ ordinal then some ordinal.toNat else none

def completionReadPurpose? (value : Option Json) : Option CompletionTaskFocusedReadPurpose := do
  let attemptOrdinal ← ordinal? (field value "attemptOrdinal")
  match ← text (field value "_tag") with
  | "Authorization" =>
      some
        { tag := .authorization
          attemptOrdinal
          ordinal := ← ordinal? (field value "authorizationOrdinal") }
  | "Confirmation" =>
      some
        { tag := .confirmation
          attemptOrdinal
          ordinal := ← ordinal? (field value "confirmationOrdinal") }
  | _ => none

/-- Whether a record asks for completion facts or has them. -/
inductive CompletionReadKind where
  | intent
  | outcome
deriving DecidableEq

structure CompletionRead where
  kind : CompletionReadKind
  operationId : OperationId
  purpose : CompletionTaskFocusedReadPurpose
  request : Payload
deriving DecidableEq

def completionReadOf (record : JournalRecord) : Option CompletionRead :=
  match record.event with
  | .taskTrackerReadIntentRecorded (.readCompletionTaskFacts operation) =>
      (completionReadPurpose? (some operation.purpose.object)).map fun purpose =>
        { kind := .intent
          operationId := operation.operationId
          purpose
          request := operation.request }
  | .taskTrackerFactsObserved (.focusedTaskCompletionFacts operationId _ request purpose _) =>
      (completionReadPurpose? (some purpose.object)).map fun purpose =>
        { kind := .outcome, operationId, purpose, request }
  | _ => none

def requestRunId? (request : Payload) : Option String :=
  text (field (field (field (some request.object) "claim") "plannedAttempt") "runId")

/-! ## The unresolved tree -/

def nodeKey (level offset : Nat) : String :=
  s!"{level}:{offset}"

def depthFor (count : Nat) : Nat :=
  Nat.clog 2 (max 1 count)

def setUnresolved (tree : KeyedMap String JournalRecord) (offset count : Nat)
    (record : Option JournalRecord) : KeyedMap String JournalRecord :=
  RightmostTree.replace nodeKey tree (depthFor count) offset record

def clearUnresolved (tree : KeyedMap String JournalRecord) (offset : Option Nat) (count : Nat) :
    KeyedMap String JournalRecord :=
  match offset with
  | none => tree
  | some offset => setUnresolved tree offset count none

/-! ## States -/

/-- What readers learn about the reads of one scope. -/
@[ext]
structure CompletionReadCycleState where
  intentCount : Nat
  maximumOrdinal : Nat
  latestIntent : Option JournalRecord
  latestUnresolvedIntent : Option JournalRecord
  latestOutcome : Option JournalRecord

/-- State of one scope with what its next read needs. -/
structure CycleState extends CompletionReadCycleState where
  observedOperations : KeySet OperationId
  unresolvedOffsets : KeyedMap OperationId Nat
  unresolvedTree : KeyedMap String JournalRecord

def emptyState : CycleState :=
  { intentCount := 0
    maximumOrdinal := 0
    latestIntent := none
    latestUnresolvedIntent := none
    latestOutcome := none
    observedOperations := .empty
    unresolvedOffsets := ∅
    unresolvedTree := ∅ }

/-- State after one more intent; a repeated operation gives up its earlier place. -/
def appendIntent (prior : CycleState) (record : JournalRecord) (operationId : OperationId)
    (ordinal : Nat) : CycleState :=
  let intentCount := prior.intentCount + 1
  let priorOffset := prior.unresolvedOffsets.lookup operationId
  let withoutDuplicate := clearUnresolved prior.unresolvedTree priorOffset intentCount
  let pending := decide (operationId ∉ prior.observedOperations)
  let tree := setUnresolved withoutDuplicate prior.intentCount intentCount
    (if pending then some record else none)
  { prior with
    intentCount
    maximumOrdinal := max prior.maximumOrdinal ordinal
    latestIntent := some record
    latestUnresolvedIntent := tree.lookup (nodeKey (depthFor intentCount) 0)
    unresolvedOffsets :=
      if pending then prior.unresolvedOffsets.set operationId prior.intentCount
      else prior.unresolvedOffsets.erase operationId
    unresolvedTree := tree }

def appendOutcome (prior : CycleState) (record : JournalRecord) (operationId : OperationId) :
    CycleState :=
  let offset := prior.unresolvedOffsets.lookup operationId
  let tree := clearUnresolved prior.unresolvedTree offset prior.intentCount
  { prior with
    latestOutcome := some record
    latestUnresolvedIntent := tree.lookup (nodeKey (depthFor prior.intentCount) 0)
    observedOperations := prior.observedOperations.add operationId
    unresolvedOffsets := prior.unresolvedOffsets.erase operationId
    unresolvedTree := tree }

def appendRead (prior : CycleState) (record : JournalRecord) (read : CompletionRead) : CycleState :=
  match read.kind with
  | .intent => appendIntent prior record read.operationId read.purpose.ordinal
  | .outcome => appendOutcome prior record read.operationId

/-! ## The index -/

/-- One exact request, one of its numbered calls and one purpose. -/
structure CompletionReadScope where
  request : Payload
  attemptOrdinal : Nat
  purpose : CompletionReadPurposeTag
deriving DecidableEq

def CompletionRead.scope (read : CompletionRead) : CompletionReadScope :=
  { request := read.request
    attemptOrdinal := read.purpose.attemptOrdinal
    purpose := read.purpose.tag }

def keyFor (scope : CompletionReadScope) : String :=
  Json.stringify (.arr [.str scope.request.text, .num scope.attemptOrdinal, .str scope.purpose.text])

/-- State after the read at a position. -/
structure CycleEntry where
  position : JournalPosition
  state : CycleState

/-- Entries of each scope. -/
abbrev CompletionReadCycles := SequenceIndex String CycleEntry

def emptyCompletionReadCycles : CompletionReadCycles := ∅

/-- Adds one record; a read of a request of another Run is no evidence. -/
def appendCompletionReadCycleEvidence (index : CompletionReadCycles) (record : JournalRecord) :
    CompletionReadCycles :=
  match completionReadOf record with
  | none => index
  | some read =>
      if requestRunId? read.request ≠ some record.runId.value then index
      else
        let history := index.bucket (keyFor read.scope)
        let prior := ((history.get (history.length - 1 : Int)).map (·.state)).getD emptyState
        index.push (keyFor read.scope)
          { position := record.position, state := appendRead prior record read }

def completionReadCyclesFrom (records : List JournalRecord) : CompletionReadCycles :=
  records.foldl appendCompletionReadCycleEvidence emptyCompletionReadCycles

def historicalCycleStateThrough (history : PersistentSequence CycleEntry) (throughPosition : Int) :
    CycleState :=
  let low := history.countThrough (·.position) throughPosition
  if low = 0 then emptyState
  else ((history.get (low - 1 : Nat)).map (·.state)).getD emptyState

def cycleStateThrough (history : PersistentSequence CycleEntry) (throughPosition : Int) :
    CycleState :=
  match history.get (history.length - 1 : Int) with
  | none => emptyState
  | some latest =>
      if (latest.position : Int) ≤ throughPosition then latest.state
      else historicalCycleStateThrough history throughPosition

def completionReadCycleAt (index : CompletionReadCycles) (scope : CompletionReadScope)
    (throughPosition : Int) : CompletionReadCycleState :=
  match index.lookup (keyFor scope) with
  | none => emptyState.toCompletionReadCycleState
  | some history => (cycleStateThrough history throughPosition).toCompletionReadCycleState

/-! ## What the records say -/

def readIn? (scope : CompletionReadScope) (record : JournalRecord) :
    Option (JournalRecord × CompletionRead) :=
  ((completionReadOf record).filter fun read =>
    requestRunId? read.request = some record.runId.value ∧ read.scope = scope).map (record, ·)

def readsIn (scope : CompletionReadScope) (records : List JournalRecord) :
    List (JournalRecord × CompletionRead) :=
  records.filterMap (readIn? scope)

def intentsOf (reads : List (JournalRecord × CompletionRead)) :
    List (JournalRecord × CompletionRead) :=
  reads.filter (·.2.kind = .intent)

def outcomesOf (reads : List (JournalRecord × CompletionRead)) :
    List (JournalRecord × CompletionRead) :=
  reads.filter (·.2.kind = .outcome)

def settledIn (reads : List (JournalRecord × CompletionRead)) (operationId : OperationId) : Bool :=
  (outcomesOf reads).any (·.2.operationId = operationId)

/-- What the reads themselves say: an intent is unresolved while no outcome has its operation. -/
def cycleOf (reads : List (JournalRecord × CompletionRead)) : CompletionReadCycleState :=
  { intentCount := (intentsOf reads).length
    maximumOrdinal := ((intentsOf reads).map (·.2.purpose.ordinal)).foldl max 0
    latestIntent := (intentsOf reads).getLast?.map (·.1)
    latestUnresolvedIntent :=
      ((intentsOf reads).filter fun intent => !settledIn reads intent.2.operationId).getLast?.map (·.1)
    latestOutcome := (outcomesOf reads).getLast?.map (·.1) }

/-! ## Keys and depths -/

theorem nodeKey_injective : Function.Injective2 nodeKey := by
  intro level level' offset offset' same
  obtain ⟨levels, offsets⟩ := TextKey.number_colon_inj.mp same
  exact ⟨levels, Nat.repr_injective offsets⟩

theorem keyFor_injective : Function.Injective keyFor := by
  intro left right same
  have values := Json.stringify_injective
    (.arr (by simp [Json.WellFormed.str, Json.WellFormed.num]))
    (.arr (by simp [Json.WellFormed.str, Json.WellFormed.num])) same
  obtain ⟨⟨request⟩, attemptOrdinal, purpose⟩ := left
  obtain ⟨⟨request'⟩, attemptOrdinal', purpose'⟩ := right
  cases purpose <;> cases purpose' <;> simp_all [CompletionReadPurposeTag.text]

theorem lt_pow_depthFor {offset count : Nat} (before : offset < count) :
    offset < 2 ^ depthFor count :=
  Nat.lt_of_lt_of_le before
    (le_trans (Nat.le_max_right 1 count) (Nat.le_pow_clog (by decide) (max 1 count)))

theorem le_pow_depthFor (count : Nat) : count ≤ 2 ^ depthFor count :=
  le_trans (Nat.le_max_right 1 count) (Nat.le_pow_clog (by decide) (max 1 count))

theorem depthFor_le_succ (count : Nat) : depthFor count ≤ depthFor (count + 1) :=
  Nat.clog_mono_right 2 (by omega)

theorem depthFor_succ_le (count : Nat) : depthFor (count + 1) ≤ depthFor count + 1 := by
  refine Nat.clog_le_of_le_pow ?_
  have wide : max 1 count ≤ 2 ^ depthFor count := Nat.le_pow_clog (by decide) _
  rw [Nat.pow_succ]
  omega

/-! ## Unresolved intents by offset -/

def liveAt (intents : List (JournalRecord × CompletionRead)) (settled : OperationId → Bool)
    (offset : Nat) : Option JournalRecord :=
  intents[offset]?.bind fun intent =>
    if settled intent.2.operationId ||
        (intents.drop (offset + 1)).any (·.2.operationId = intent.2.operationId) then none
    else some intent.1

variable {intents : List (JournalRecord × CompletionRead)} {settled : OperationId → Bool}
  {intent : JournalRecord × CompletionRead} {operationId : OperationId} {offset : Nat}

theorem liveAt_eq_none_of_le (behind : intents.length ≤ offset) :
    liveAt intents settled offset = none := by
  rw [liveAt, List.getElem?_eq_none behind]
  rfl

def namesAt (intents : List (JournalRecord × CompletionRead)) (operationId : OperationId)
    (offset : Nat) : Bool :=
  intents[offset]?.any (·.2.operationId = operationId)

def givenUp (intents : List (JournalRecord × CompletionRead)) (settled : OperationId → Bool)
    (operationId : OperationId) (offset : Nat) : Option JournalRecord :=
  if namesAt intents operationId offset then none else liveAt intents settled offset

theorem liveAt_eq_none_of_settled (names : namesAt intents operationId offset = true)
    (seen : settled operationId = true) : liveAt intents settled offset = none := by
  unfold namesAt at names
  unfold liveAt
  cases found : intents[offset]? with
  | none => rfl
  | some intent =>
      rw [found, Option.any_some, decide_eq_true_eq] at names
      rw [Option.bind_some, names, seen, Bool.true_or]
      rfl

theorem liveAt_settle {settled' : OperationId → Bool}
    (settles : ∀ other, settled' other = (settled other || decide (other = operationId))) :
    liveAt intents settled' = givenUp intents settled operationId := by
  funext offset
  unfold givenUp namesAt liveAt
  cases intents[offset]? with
  | none => rfl
  | some intent =>
      simp only [Option.bind_some, Option.any_some]
      rw [settles]
      by_cases same : intent.2.operationId = operationId
      · rw [decide_eq_true same, Bool.or_true, Bool.true_or]
        rfl
      · rw [decide_eq_false same, Bool.or_false]
        rfl

theorem liveAt_append :
    liveAt (intents ++ [intent]) settled =
      Function.update (givenUp intents settled intent.2.operationId) intents.length
        (if settled intent.2.operationId then none else some intent.1) := by
  funext offset
  obtain before | rfl | behind := Nat.lt_trichotomy offset intents.length
  · rw [Function.update_of_ne (Nat.ne_of_lt before)]
    unfold givenUp namesAt liveAt
    rw [List.getElem?_append_left before, List.getElem?_eq_getElem before,
      List.drop_append_of_le_length before]
    simp only [Option.bind_some, Option.any_some, List.any_append, List.any_cons, List.any_nil,
      Bool.or_false]
    by_cases same : intents[offset].2.operationId = intent.2.operationId
    · rw [decide_eq_true same, decide_eq_true same.symm, Bool.or_true, Bool.or_true]
      rfl
    · rw [decide_eq_false same, decide_eq_false (Ne.symm same), Bool.or_false]
      rfl
  · rw [Function.update_self]
    simp [liveAt]
  · rw [Function.update_of_ne (Nat.ne_of_gt behind), givenUp,
      liveAt_eq_none_of_le (Nat.le_of_lt behind), liveAt_eq_none_of_le, ite_self]
    rw [List.length_append]
    exact behind

theorem rightmost_liveAt :
    rightmost (liveAt intents settled) 0 intents.length =
      (intents.filter fun intent => !settled intent.2.operationId).getLast?.map (·.1) := by
  induction intents using List.reverseRecOn with
  | nil => rfl
  | append_singleton intents intent induction =>
      rw [List.length_append, List.length_singleton, rightmost, Nat.zero_add, liveAt_append,
        Function.update_self, List.filter_append, List.filter_singleton]
      cases seen : settled intent.2.operationId with
      | false => simp
      | true =>
          simp only [if_true, Option.none_or, Bool.not_true, cond_false, List.append_nil]
          rw [← induction]
          refine RightmostTree.rightmost_congr fun index _ before => ?_
          rw [Function.update_of_ne (by omega), givenUp]
          split
          · next names => exact (liveAt_eq_none_of_settled names seen).symm
          · rfl

/-! ## States and the reads they follow -/

variable {reads : List (JournalRecord × CompletionRead)} {state : CycleState}
  {record : JournalRecord} {read : CompletionRead}

def liveIntents (reads : List (JournalRecord × CompletionRead)) (offset : Nat) :
    Option JournalRecord :=
  liveAt (intentsOf reads) (settledIn reads) offset

structure CycleState.Follows (state : CycleState) (reads : List (JournalRecord × CompletionRead)) :
    Prop where
  cycle : state.toCompletionReadCycleState = cycleOf reads
  observed : ∀ operationId, operationId ∈ state.observedOperations ↔
    settledIn reads operationId = true
  offsets : ∀ operationId offset, state.unresolvedOffsets.lookup operationId = some offset ↔
    namesAt (intentsOf reads) operationId offset = true ∧ (liveIntents reads offset).isSome = true
  tree : RightmostTree.Holds nodeKey (liveIntents reads) state.unresolvedTree
    (depthFor (intentsOf reads).length)

theorem follows_emptyState : emptyState.Follows [] where
  cycle := rfl
  observed _ := by simp [emptyState, settledIn, outcomesOf]
  offsets _ _ := by simp [emptyState, namesAt, intentsOf]
  tree := RightmostTree.holds_empty

theorem root_eq_latestUnresolvedIntent {tree : KeyedMap String JournalRecord}
    (holds : RightmostTree.Holds nodeKey (liveIntents reads) tree
      (depthFor (intentsOf reads).length)) :
    tree.lookup (nodeKey (depthFor (intentsOf reads).length) 0) =
      (cycleOf reads).latestUnresolvedIntent := by
  have bounded : ∀ offset, (intentsOf reads).length ≤ offset → liveIntents reads offset = none :=
    fun _ => liveAt_eq_none_of_le
  rw [holds.root, RightmostTree.rightmost_of_bounded bounded (le_pow_depthFor _)]
  exact rightmost_liveAt

theorem givenUp_eq (offset : Option Nat)
    (found : ∀ place, offset = some place ↔ namesAt intents operationId place = true ∧
      (liveAt intents settled place).isSome = true) :
    givenUp intents settled operationId =
      offset.elim (liveAt intents settled) (Function.update (liveAt intents settled) · none) := by
  funext place
  rw [givenUp]
  by_cases here : offset = some place
  · rw [if_pos ((found place).mp here).1, here, Option.elim_some, Function.update_self]
  · have unmoved : offset.elim (liveAt intents settled)
        (Function.update (liveAt intents settled) · none) place = liveAt intents settled place := by
      cases offset with
      | none => rfl
      | some other => exact Function.update_of_ne (fun same => here (by rw [same])) ..
    rw [unmoved]
    split
    · next names =>
        have dead := mt (fun live => (found place).mpr ⟨names, live⟩) here
        exact (Option.not_isSome_iff_eq_none.mp dead).symm
    · rfl

theorem CycleState.Follows.clear (follows : state.Follows reads) (operationId : OperationId)
    {count : Nat} (kept : depthFor (intentsOf reads).length ≤ depthFor count)
    (grown : depthFor count ≤ depthFor (intentsOf reads).length + 1) :
    ∃ depth, depthFor (intentsOf reads).length ≤ depth ∧ depth ≤ depthFor count ∧
      RightmostTree.Holds nodeKey (givenUp (intentsOf reads) (settledIn reads) operationId)
        (clearUnresolved state.unresolvedTree (state.unresolvedOffsets.lookup operationId) count)
        depth := by
  rw [givenUp_eq _ (follows.offsets operationId)]
  cases found : state.unresolvedOffsets.lookup operationId with
  | none => exact ⟨_, Nat.le_refl _, kept, follows.tree⟩
  | some offset =>
      refine ⟨depthFor count, kept, Nat.le_refl _, ?_⟩
      have live := ((follows.offsets operationId offset).mp found).2
      have before : offset < 2 ^ depthFor (intentsOf reads).length := by
        by_contra behind
        rw [follows.tree.bounded offset (Nat.le_of_not_lt behind)] at live
        contradiction
      have wide : 2 ^ depthFor (intentsOf reads).length ≤ 2 ^ depthFor count :=
        Nat.pow_le_pow_right (by decide) kept
      exact follows.tree.replace nodeKey_injective kept grown (by omega) none

/-! ## One more read -/

theorem intentsOf_append_intent (intends : read.kind = .intent) :
    intentsOf (reads ++ [(record, read)]) = intentsOf reads ++ [(record, read)] := by
  simp [intentsOf, intends]

theorem outcomesOf_append_intent (intends : read.kind = .intent) :
    outcomesOf (reads ++ [(record, read)]) = outcomesOf reads := by
  simp [outcomesOf, intends]

theorem intentsOf_append_outcome (observes : read.kind = .outcome) :
    intentsOf (reads ++ [(record, read)]) = intentsOf reads := by
  simp [intentsOf, observes]

theorem outcomesOf_append_outcome (observes : read.kind = .outcome) :
    outcomesOf (reads ++ [(record, read)]) = outcomesOf reads ++ [(record, read)] := by
  simp [outcomesOf, observes]

theorem settledIn_append_intent (intends : read.kind = .intent) :
    settledIn (reads ++ [(record, read)]) = settledIn reads := by
  funext operationId
  rw [settledIn, outcomesOf_append_intent intends, settledIn]

theorem settledIn_append_outcome (observes : read.kind = .outcome) (operationId : OperationId) :
    settledIn (reads ++ [(record, read)]) operationId =
      (settledIn reads operationId || decide (operationId = read.operationId)) := by
  rw [settledIn, outcomesOf_append_outcome observes, List.any_append, settledIn]
  simp [eq_comm]

theorem namesAt_append_length {intent : JournalRecord × CompletionRead} :
    namesAt (intents ++ [intent]) operationId intents.length =
      decide (intent.2.operationId = operationId) := by
  rw [namesAt, List.getElem?_concat_length, Option.any_some]

theorem namesAt_append_of_ne {intent : JournalRecord × CompletionRead}
    (apart : offset ≠ intents.length) :
    namesAt (intents ++ [intent]) operationId offset = namesAt intents operationId offset := by
  unfold namesAt
  obtain before | behind := Nat.lt_or_gt_of_ne apart
  · rw [List.getElem?_append_left before]
  · rw [List.getElem?_eq_none (Nat.le_of_lt behind), List.getElem?_eq_none]
    rw [List.length_append]
    exact behind

theorem lt_of_namesAt (names : namesAt intents operationId offset = true) :
    offset < intents.length := by
  by_contra behind
  rw [namesAt, List.getElem?_eq_none (Nat.le_of_not_lt behind)] at names
  contradiction

theorem names_givenUp_iff {other : OperationId} :
    namesAt intents operationId offset = true ∧
        (givenUp intents settled other offset).isSome = true ↔
      operationId ≠ other ∧ namesAt intents operationId offset = true ∧
        (liveAt intents settled offset).isSome = true := by
  rw [givenUp]
  by_cases names : namesAt intents operationId offset = true
  · have same : namesAt intents other offset = true ↔ operationId = other := by
      unfold namesAt at names ⊢
      cases found : intents[offset]? with
      | none => simp [found] at names
      | some intent =>
          rw [found, Option.any_some, decide_eq_true_eq] at names
          rw [Option.any_some, decide_eq_true_eq, names]
    by_cases own : operationId = other
    · rw [if_pos (same.mpr own)]
      simp [own]
    · rw [if_neg (mt same.mp own)]
      simp [own]
  · simp [names]

section

variable (follows : state.Follows reads)
include follows

theorem CycleState.Follows.lookup_erase (operationId other : OperationId) (offset : Nat) :
    (state.unresolvedOffsets.erase operationId).lookup other = some offset ↔
      namesAt (intentsOf reads) other offset = true ∧
        (givenUp (intentsOf reads) (settledIn reads) operationId offset).isSome = true := by
  rw [KeyedMap.lookup_erase_eq_ite, names_givenUp_iff]
  by_cases own : other = operationId
  · simp [own]
  · rw [if_neg own]
    exact (follows.offsets other offset).trans (by simp [own, liveIntents])

theorem CycleState.Follows.intentCount_eq : state.intentCount = (intentsOf reads).length :=
  congrArg CompletionReadCycleState.intentCount follows.cycle

theorem CycleState.Follows.appendOutcome (observes : read.kind = .outcome) :
    (appendOutcome state record read.operationId).Follows (reads ++ [(record, read)]) := by
  have live : liveIntents (reads ++ [(record, read)]) =
      givenUp (intentsOf reads) (settledIn reads) read.operationId := by
    unfold liveIntents
    rw [intentsOf_append_outcome observes]
    exact liveAt_settle (settledIn_append_outcome observes)
  obtain ⟨depth, kept, bounded, holds⟩ := @CycleState.Follows.clear _ _ follows read.operationId
    state.intentCount (by rw [follows.intentCount_eq])
    (by rw [follows.intentCount_eq]; exact Nat.le_succ _)
  have whole : RightmostTree.Holds nodeKey (liveIntents (reads ++ [(record, read)]))
      (clearUnresolved state.unresolvedTree (state.unresolvedOffsets.lookup read.operationId)
        state.intentCount) (depthFor (intentsOf (reads ++ [(record, read)])).length) := by
    rw [follows.intentCount_eq] at bounded
    rw [live, intentsOf_append_outcome observes, Nat.le_antisymm kept bounded]
    exact holds
  refine ⟨?_, fun operationId => ?_, fun operationId offset => ?_, whole⟩
  · have root := root_eq_latestUnresolvedIntent whole
    rw [intentsOf_append_outcome observes, ← follows.intentCount_eq] at root
    apply CompletionReadCycleState.ext
    · rw [cycleOf, intentsOf_append_outcome observes]
      exact follows.intentCount_eq
    · have maximum := congrArg CompletionReadCycleState.maximumOrdinal follows.cycle
      rw [cycleOf, intentsOf_append_outcome observes]
      exact maximum
    · have latest := congrArg CompletionReadCycleState.latestIntent follows.cycle
      rw [cycleOf, intentsOf_append_outcome observes]
      exact latest
    · exact root
    · rw [cycleOf, outcomesOf_append_outcome observes, List.getLast?_concat]
      rfl
  · rw [settledIn_append_outcome observes, Bool.or_eq_true, decide_eq_true_eq,
      ← follows.observed]
    exact KeySet.mem_add.trans or_comm
  · rw [live, intentsOf_append_outcome observes]
    exact follows.lookup_erase read.operationId operationId offset

theorem CycleState.Follows.pending_eq (operationId : OperationId) :
    decide (operationId ∉ state.observedOperations) = !settledIn reads operationId := by
  have observed := follows.observed operationId
  cases seen : settledIn reads operationId with
  | true => simpa [seen] using observed
  | false => simpa [seen] using observed

end

theorem liveIntents_append_intent (intends : read.kind = .intent) :
    liveIntents (reads ++ [(record, read)]) =
      Function.update (givenUp (intentsOf reads) (settledIn reads) read.operationId)
        (intentsOf reads).length
        (if settledIn reads read.operationId then none else some record) := by
  unfold liveIntents
  rw [intentsOf_append_intent intends, settledIn_append_intent intends, liveAt_append]

theorem CycleState.Follows.lookup_appendIntent (follows : state.Follows reads)
    (intends : read.kind = .intent) (other : OperationId) (offset : Nat) :
    (Dalph.appendIntent state record read.operationId read.purpose.ordinal).unresolvedOffsets.lookup
        other = some offset ↔
      namesAt (intentsOf (reads ++ [(record, read)])) other offset = true ∧
        (liveIntents (reads ++ [(record, read)]) offset).isSome = true := by
  have erased := follows.lookup_erase read.operationId other offset
  have behind : (state.unresolvedOffsets.erase read.operationId).lookup other ≠
      some (intentsOf reads).length := fun found =>
    absurd (lt_of_namesAt ((follows.lookup_erase _ _ _).mp found).1) (Nat.lt_irrefl _)
  rw [KeyedMap.lookup_erase_eq_ite] at erased behind
  have offsets : (Dalph.appendIntent state record read.operationId
      read.purpose.ordinal).unresolvedOffsets.lookup other =
        if other = read.operationId then
          if settledIn reads read.operationId then none else some (intentsOf reads).length
        else state.unresolvedOffsets.lookup other := by
    unfold Dalph.appendIntent
    dsimp only
    rw [follows.pending_eq, ← follows.intentCount_eq]
    cases settledIn reads read.operationId with
    | true => exact KeyedMap.lookup_erase_eq_ite
    | false => exact KeyedMap.lookup_set
  rw [offsets, liveIntents_append_intent intends, intentsOf_append_intent intends]
  by_cases here : offset = (intentsOf reads).length
  · subst here
    rw [namesAt_append_length, Function.update_self, decide_eq_true_eq]
    by_cases own : other = read.operationId
    · cases settledIn reads read.operationId <;> simp [own]
    · rw [if_neg own] at behind ⊢
      simp [behind, Ne.symm own]
  · rw [namesAt_append_of_ne here, Function.update_of_ne here, ← erased]
    by_cases own : other = read.operationId
    · cases settledIn reads read.operationId <;> simp [own, Ne.symm here]
    · rw [if_neg own, if_neg own]

theorem CycleState.Follows.appendIntent (follows : state.Follows reads)
    (intends : read.kind = .intent) :
    (appendIntent state record read.operationId read.purpose.ordinal).Follows
      (reads ++ [(record, read)]) := by
  have count : (intentsOf (reads ++ [(record, read)])).length = state.intentCount + 1 := by
    rw [intentsOf_append_intent intends, follows.intentCount_eq, List.length_append]
    rfl
  obtain ⟨depth, kept, bounded, holds⟩ := @CycleState.Follows.clear _ _ follows read.operationId
    (state.intentCount + 1) (by rw [follows.intentCount_eq]; exact depthFor_le_succ _)
    (by rw [follows.intentCount_eq]; exact depthFor_succ_le _)
  have grown : depthFor (state.intentCount + 1) ≤ depth + 1 := by
    rw [follows.intentCount_eq]
    exact le_trans (depthFor_succ_le _) (by omega)
  have item : (if decide (read.operationId ∉ state.observedOperations) then some record else none) =
      if settledIn reads read.operationId then none else some record := by
    rw [follows.pending_eq]
    cases settledIn reads read.operationId <;> rfl
  have whole : RightmostTree.Holds nodeKey (liveIntents (reads ++ [(record, read)]))
      (Dalph.appendIntent state record read.operationId read.purpose.ordinal).unresolvedTree
      (depthFor (intentsOf (reads ++ [(record, read)])).length) := by
    rw [liveIntents_append_intent intends, count, ← follows.intentCount_eq, ← item]
    exact holds.replace nodeKey_injective bounded grown
      (lt_pow_depthFor (Nat.lt_succ_self state.intentCount)) _
  refine ⟨?_, fun operationId => ?_, fun operationId offset => ?_, whole⟩
  · have root := root_eq_latestUnresolvedIntent whole
    rw [count] at root
    apply CompletionReadCycleState.ext
    · exact count.symm
    · have maximum := congrArg CompletionReadCycleState.maximumOrdinal follows.cycle
      rw [cycleOf, intentsOf_append_intent intends, List.map_append, List.foldl_append]
      exact congrArg (max · read.purpose.ordinal) maximum
    · rw [cycleOf, intentsOf_append_intent intends, List.getLast?_concat]
      rfl
    · exact root
    · have latest := congrArg CompletionReadCycleState.latestOutcome follows.cycle
      rw [cycleOf, outcomesOf_append_intent intends]
      exact latest
  · rw [settledIn_append_intent intends]
    exact follows.observed operationId
  · exact follows.lookup_appendIntent intends operationId offset

/-! ## Histories -/

def cycleStateAfter (reads : List (JournalRecord × CompletionRead)) : CycleState :=
  reads.foldl (fun state entry => appendRead state entry.1 entry.2) emptyState

theorem cycleStateAfter_append :
    cycleStateAfter (reads ++ [(record, read)]) = appendRead (cycleStateAfter reads) record read := by
  rw [cycleStateAfter, List.foldl_append]
  rfl

theorem follows_cycleStateAfter (reads : List (JournalRecord × CompletionRead)) :
    (cycleStateAfter reads).Follows reads := by
  induction reads using List.reverseRecOn with
  | nil => exact follows_emptyState
  | append_singleton reads entry induction =>
      obtain ⟨record, read⟩ := entry
      rw [cycleStateAfter_append, appendRead]
      cases kind : read.kind with
      | intent => exact induction.appendIntent kind
      | outcome => exact induction.appendOutcome kind

/-- The history has the state after each read. -/
structure CycleHistoryShows (history : PersistentSequence CycleEntry)
    (reads : List (JournalRecord × CompletionRead)) : Prop where
  positions : history.toList.map (·.position) = reads.map (·.1.position)
  states : ∀ earlier entry later, reads = earlier ++ entry :: later →
    history.toList[earlier.length]?.map (·.state) = some (cycleStateAfter (earlier ++ [entry]))

variable {history : PersistentSequence CycleEntry}

section

variable (shows : CycleHistoryShows history reads)
include shows

theorem CycleHistoryShows.length_eq : history.toList.length = reads.length := by
  simpa using congrArg List.length shows.positions

theorem CycleHistoryShows.get_eq {earlier later : List (JournalRecord × CompletionRead)}
    {entry : JournalRecord × CompletionRead} (split : reads = earlier ++ entry :: later) :
    history.get (earlier.length : Int) =
      some { position := entry.1.position, state := cycleStateAfter (earlier ++ [entry]) } := by
  obtain ⟨found, present, state⟩ := Option.map_eq_some_iff.mp (shows.states _ _ _ split)
  have position : history.toList[earlier.length]?.map (·.position) = some entry.1.position := by
    rw [← List.getElem?_map, shows.positions, split]
    simp
  rw [present] at position
  rw [PersistentSequence.get_natCast, present]
  obtain ⟨place, kept⟩ := found
  obtain rfl : place = entry.1.position := Option.some.inj position
  obtain rfl : kept = _ := state
  rfl

theorem CycleHistoryShows.latest :
    (reads = [] ∧ history.get (history.length - 1 : Int) = none) ∨
      ∃ earlier entry, reads = earlier ++ [entry] ∧
        history.get (history.length - 1 : Int) =
          some { position := entry.1.position, state := cycleStateAfter reads } := by
  have length := shows.length_eq
  rw [PersistentSequence.length_toList] at length
  obtain rfl | ⟨earlier, entry, rfl⟩ := reads.eq_nil_or_concat'
  · refine Or.inl ⟨rfl, ?_⟩
    rw [PersistentSequence.get_length_sub_one]
    exact List.getLast?_eq_none_iff.mpr (List.length_eq_zero_iff.mp shows.length_eq)
  · refine Or.inr ⟨earlier, entry, rfl, ?_⟩
    have last : (history.length - 1 : Int) = (earlier.length : Int) := by
      rw [length, List.length_append, List.length_singleton]
      omega
    rw [last]
    exact shows.get_eq rfl

theorem CycleHistoryShows.cycleStateThrough_eq (increasing : Increasing (·.1.position) reads)
    (cutoff : Int) :
    cycleStateThrough history cutoff =
      cycleStateAfter (reads.filter fun entry => (entry.1.position : Int) ≤ cutoff) := by
  unfold cycleStateThrough
  obtain ⟨rfl, absent⟩ | ⟨earlier, entry, rfl, latest⟩ := shows.latest
  · rw [absent]
    rfl
  · rw [latest]
    dsimp only
    by_cases through : (entry.1.position : Int) ≤ cutoff
    · rw [if_pos through, increasing.filter_eq_self through]
    · have ordered : Increasing (·.position) history.toList := by
        have positions : (history.toList.map (·.position)).Pairwise (· < ·) := by
          rw [shows.positions]
          exact List.pairwise_map.mpr increasing
        exact List.pairwise_map.mp positions
      have count : history.countThrough (·.position) cutoff =
          ((earlier ++ [entry]).filter fun entry => (entry.1.position : Int) ≤ cutoff).length := by
        rw [PersistentSequence.countThrough_eq ordered]
        have visible := congrArg (List.countP fun place : Nat => decide ((place : Int) ≤ cutoff))
          shows.positions
        rw [List.countP_map, List.countP_map, List.countP_eq_length_filter,
          List.countP_eq_length_filter] at visible
        exact visible
      rw [if_neg through, historicalCycleStateThrough, count]
      obtain ⟨later, prefixed⟩ := increasing.exists_filter_append cutoff
      generalize ((earlier ++ [entry]).filter fun entry => decide ((entry.1.position : Int) ≤ cutoff))
        = visible at prefixed ⊢
      obtain rfl | ⟨before, last, rfl⟩ := visible.eq_nil_or_concat'
      · rfl
      · rw [List.append_assoc] at prefixed
        rw [List.length_append, List.length_singleton, if_neg (by omega), Nat.add_sub_cancel,
          shows.get_eq prefixed]
        rfl

end

theorem CycleHistoryShows.append (shows : CycleHistoryShows history reads) :
    CycleHistoryShows
      (history.append
        { position := record.position
          state := appendRead
            (((history.get (history.length - 1 : Int)).map (·.state)).getD emptyState) record read })
      (reads ++ [(record, read)]) := by
  have prior : ((history.get (history.length - 1 : Int)).map (·.state)).getD emptyState =
      cycleStateAfter reads := by
    obtain ⟨rfl, absent⟩ | ⟨earlier, entry, _, latest⟩ := shows.latest
    · rw [absent]
      rfl
    · rw [latest]
      rfl
  rw [prior, ← cycleStateAfter_append]
  constructor
  · rw [PersistentSequence.toList_append, List.map_append, List.map_append, shows.positions]
    rfl
  · intro earlier entry later split
    rw [PersistentSequence.toList_append]
    obtain rfl | ⟨later, last, rfl⟩ := later.eq_nil_or_concat'
    · obtain ⟨rfl, same⟩ := List.append_inj' split rfl
      obtain rfl := List.singleton_inj.mp same
      rw [← shows.length_eq, List.getElem?_concat_length]
      rfl
    · have regrouped : reads ++ [(record, read)] = (earlier ++ entry :: later) ++ [last] := by
        rw [split]
        simp
      obtain ⟨same, _⟩ := List.append_inj' regrouped rfl
      have before : earlier.length < history.toList.length := by
        rw [shows.length_eq, same]
        simp
      rw [List.getElem?_append_left before]
      exact shows.states _ _ _ same

/-! ## The index and its records -/

variable {records : List JournalRecord} {scope : CompletionReadScope}

theorem fst_of_readIn? {entry : JournalRecord × CompletionRead}
    (found : readIn? scope record = some entry) : entry.1 = record := by
  obtain ⟨_, _, rfl⟩ := Option.map_eq_some_iff.mp found
  rfl

theorem readsIn_append :
    readsIn scope (records ++ [record]) = readsIn scope records ++ (readIn? scope record).toList := by
  rw [readsIn, List.filterMap_append, readsIn]
  refine congrArg _ ?_
  cases found : readIn? scope record with
  | none => simp [found]
  | some entry => simp [found]

theorem increasing_readsIn (increasing : Increasing JournalRecord.position records)
    (scope : CompletionReadScope) : Increasing (·.1.position) (readsIn scope records) := by
  refine List.pairwise_filterMap.mpr (increasing.imp ?_)
  intro earlier later before entry found entry' found'
  dsimp only
  rw [fst_of_readIn? found, fst_of_readIn? found']
  exact before

theorem readsIn_filter (scope : CompletionReadScope) (visible : JournalRecord → Bool) :
    readsIn scope (records.filter visible) =
      (readsIn scope records).filter fun entry => visible entry.1 := by
  unfold readsIn
  rw [List.filterMap_filter, List.filter_filterMap]
  refine List.filterMap_congr fun record _ => ?_
  cases found : readIn? scope record with
  | none => simp
  | some entry =>
      have own := fst_of_readIn? found
      cases shown : visible record <;> simp [Option.filter, own, shown]

def CompletionReadCycles.Shows (index : CompletionReadCycles) (records : List JournalRecord) : Prop :=
  ∀ scope, CycleHistoryShows (index.bucket (keyFor scope)) (readsIn scope records)

theorem CompletionReadCycles.Shows.append {index : CompletionReadCycles}
    (shows : index.Shows records) (record : JournalRecord) :
    (appendCompletionReadCycleEvidence index record).Shows (records ++ [record]) := by
  intro scope
  rw [readsIn_append, readIn?, appendCompletionReadCycleEvidence]
  cases completionReadOf record with
  | none =>
      rw [Option.filter_none, Option.map_none, Option.toList_none, List.append_nil]
      exact shows scope
  | some read =>
      dsimp only
      by_cases own : requestRunId? read.request = some record.runId.value
      · rw [if_neg (not_not_intro own), SequenceIndex.bucket_push]
        by_cases same : scope = read.scope
        · subst same
          rw [if_pos rfl, Option.filter_some_pos (by simp [own])]
          exact (shows read.scope).append
        · rw [if_neg fun keys => same (keyFor_injective keys),
            Option.filter_some_neg (by simp [Ne.symm same]), Option.map_none, Option.toList_none,
            List.append_nil]
          exact shows scope
      · rw [if_pos own, Option.filter_some_neg (by simp [own]), Option.map_none, Option.toList_none,
          List.append_nil]
        exact shows scope

theorem shows_completionReadCyclesFrom (records : List JournalRecord) :
    (completionReadCyclesFrom records).Shows records := by
  induction records using List.reverseRecOn with
  | nil =>
      intro scope
      exact ⟨rfl, fun earlier entry later impossible => absurd impossible (by simp [readsIn])⟩
  | append_singleton records record induction =>
      rw [completionReadCyclesFrom, List.foldl_append]
      exact induction.append record

theorem completionReadCycleAt_bucket (index : CompletionReadCycles) (scope : CompletionReadScope)
    (throughPosition : Int) :
    completionReadCycleAt index scope throughPosition =
      (cycleStateThrough (index.bucket (keyFor scope)) throughPosition).toCompletionReadCycleState := by
  unfold completionReadCycleAt SequenceIndex.bucket
  cases index.lookup (keyFor scope) with
  | none => rfl
  | some history => rfl

/-- At every cutoff a scope reads back what its visible records say. -/
theorem completionReadCycleAt_eq (records : List JournalRecord)
    (increasing : Increasing JournalRecord.position records) (scope : CompletionReadScope)
    (throughPosition : Int) :
    completionReadCycleAt (completionReadCyclesFrom records) scope throughPosition =
      cycleOf (readsIn scope (records.filter fun record =>
        (record.position : Int) ≤ throughPosition)) := by
  rw [completionReadCycleAt_bucket,
    (shows_completionReadCyclesFrom records scope).cycleStateThrough_eq
      (increasing_readsIn increasing scope), readsIn_filter]
  exact (follows_cycleStateAfter _).cycle

def readingRequest : Payload :=
  ⟨Json.stringify (.obj [("claim", .obj [("plannedAttempt", .obj [("runId", .str "reading run")])])])⟩

def readingPurpose (ordinal : Nat) : Payload :=
  ⟨Json.stringify (.obj [("_tag", .str "Authorization"), ("attemptOrdinal", .num 1),
    ("authorizationOrdinal", .num ordinal)])⟩

def readingIntent (position ordinal : Nat) : JournalRecord :=
  { event := .taskTrackerReadIntentRecorded (.readCompletionTaskFacts
      { operationId := ⟨s!"read {ordinal}"⟩
        predecessorOperationIds := []
        purpose := readingPurpose ordinal
        request := readingRequest
        target := .fixture "tracker" })
    key := { value := s!"intent {position}" }
    position
    runId := ⟨"reading run", by decide⟩ }

def readingOutcome (position ordinal : Nat) : JournalRecord :=
  { event := .taskTrackerFactsObserved (.focusedTaskCompletionFacts ⟨s!"read {ordinal}"⟩
      (.fixture "tracker") readingRequest (readingPurpose ordinal)
      { lifecycle := .opened
        operationId := ⟨s!"read {ordinal}"⟩
        target := .fixture "tracker"
        targetMember := true
        taskId := ⟨"task"⟩
        taskRevision := ⟨"revision"⟩
        trackerRevision := ⟨"tracker revision"⟩ })
    key := { value := s!"outcome {position}" }
    position
    runId := ⟨"reading run", by decide⟩ }

def readingRecords : List JournalRecord :=
  [readingIntent 1 7, readingIntent 2 2, readingOutcome 3 2]

/-- The earlier read is the unresolved one. -/
theorem completionReadCycleAt_readingRecords :
    (completionReadCycleAt (completionReadCyclesFrom readingRecords)
      { request := readingRequest, attemptOrdinal := 1, purpose := .authorization }
      3).latestUnresolvedIntent = some (readingIntent 1 7) := by
  have increasing : Increasing JournalRecord.position readingRecords := by
    simp [Increasing, readingRecords, readingIntent, readingOutcome]
  rw [completionReadCycleAt_eq readingRecords increasing]
  decide +kernel

end Dalph
