import Dalph.Workflow.ExecutorGuidance.Control

/-!
# What a run of the control keeps

Only the control writes guidance, each event under a key of its request, so a look under a key finds
the event that was written there.  One step keeps what is true of the call that holds the control.
-/

namespace Dalph

theorem JournalRecordKey.eq_of_value {left right : JournalRecordKey}
    (same : left.value = right.value) : left = right := by
  cases left
  cases right
  simpa using same

namespace ExecutorGuidanceJournalEvent

variable {guidance other : ExecutorGuidanceJournalEvent}

theorem expectedKey_value (guidance : ExecutorGuidanceJournalEvent) :
    guidance.event.expectedKey.value =
      "executor-guidance:" ++ (guidance.requestId.value ++ guidance.keySuffix) := by
  cases guidance <;> rfl

theorem admitted_expectedKey (metadata : ExecutorGuidanceMetadata) :
    (admitted metadata).event.expectedKey =
      executorGuidanceAdmittedRecordKey metadata.requestId := by
  refine JournalRecordKey.eq_of_value ?_
  rw [expectedKey_value, ← String.append_assoc]
  rfl

theorem dispatchIntended_expectedKey (requestId : ExecutorGuidanceRequestId)
    (target : ExecutorGuidanceTarget) :
    (dispatchIntended requestId target).event.expectedKey =
      executorGuidanceDispatchIntendedRecordKey requestId := by
  refine JournalRecordKey.eq_of_value ?_
  rw [expectedKey_value, ← String.append_assoc]
  rfl

theorem observed_expectedKey (requestId : ExecutorGuidanceRequestId)
    (disposition : ExecutorGuidanceTransmission) :
    (observed requestId disposition).event.expectedKey =
      executorGuidanceObservedRecordKey requestId := by
  refine JournalRecordKey.eq_of_value ?_
  rw [expectedKey_value, ← String.append_assoc]
  rfl

def keyEnds : List (ProtocolEventKind × String) :=
  [(.executorGuidanceAdmitted, ":admitted"),
    (.executorGuidanceDispatchIntended, ":dispatch-intended"),
    (.executorGuidanceObserved, ":observed")]

theorem mem_keyEnds (guidance : ExecutorGuidanceJournalEvent) :
    (guidance.kind, guidance.keySuffix) ∈ keyEnds := by
  cases guidance <;> simp [kind, keySuffix, keyEnds]

def lastThree (text : String) : List Char :=
  text.toList.reverse.take 3

theorem keyEnds_inj : ∀ left ∈ keyEnds, ∀ right ∈ keyEnds,
    lastThree left.2 = lastThree right.2 → left = right := by
  decide

theorem lastThree_append (guidance : ExecutorGuidanceJournalEvent) (text : String) :
    lastThree (text ++ guidance.keySuffix) = lastThree guidance.keySuffix := by
  have long : ∀ ending ∈ keyEnds, 3 ≤ ending.2.toList.reverse.length := by decide
  unfold lastThree
  rw [String.toList_append, List.reverse_append,
    List.take_append_of_le_length (long _ guidance.mem_keyEnds)]

theorem expectedKey_inj (same : guidance.event.expectedKey = other.event.expectedKey) :
    guidance.requestId = other.requestId ∧ guidance.kind = other.kind := by
  have values := congrArg JournalRecordKey.value same
  rw [expectedKey_value, expectedKey_value, String.append_right_inj] at values
  have ends := congrArg lastThree values
  rw [lastThree_append, lastThree_append] at ends
  have pairs := keyEnds_inj _ guidance.mem_keyEnds _ other.mem_keyEnds ends
  rw [(Prod.mk.inj pairs).2, String.append_left_inj] at values
  refine ⟨?_, (Prod.mk.inj pairs).1⟩
  generalize guidance.requestId = left at values ⊢
  generalize other.requestId = right at values ⊢
  cases left
  cases right
  exact congrArg ExecutorGuidanceRequestId.mk values

theorem isExecutorGuidance_event (guidance : ExecutorGuidanceJournalEvent) :
    isExecutorGuidance guidance.event = true := by
  cases guidance <;> rfl

end ExecutorGuidanceJournalEvent

theorem ProtocolEventKind.keyPrefix_apart_guidance (kind : ProtocolEventKind)
    (other : kind ≠ .executorGuidanceAdmitted ∧ kind ≠ .executorGuidanceDispatchIntended ∧
      kind ≠ .executorGuidanceObserved) :
    kind.keyPrefix.toList.isPrefixOf "executor-guidance:".toList = false ∧
      "executor-guidance:".toList.isPrefixOf kind.keyPrefix.toList = false := by
  cases kind with
  | executorGuidanceAdmitted => exact absurd rfl other.1
  | executorGuidanceDispatchIntended => exact absurd rfl other.2.1
  | executorGuidanceObserved => exact absurd rfl other.2.2
  | worktreeCleanup step | branchCleanup step | integratorCandidateCleanup step =>
      cases step <;> decide
  | _ => decide

theorem StartsWith.apart {text first second : String} (starts : StartsWith text first)
    (apart : first.toList.isPrefixOf second.toList = false ∧
      second.toList.isPrefixOf first.toList = false) : ¬ StartsWith text second := by
  intro also
  obtain one | two := List.prefix_or_prefix_of_prefix starts also
  · rw [List.isPrefixOf_iff_prefix.mpr one] at apart
    exact absurd apart.1 (by decide)
  · rw [List.isPrefixOf_iff_prefix.mpr two] at apart
    exact absurd apart.2 (by decide)

theorem isExecutorGuidance_of_startsWith {event : WorkflowJournalEvent}
    (starts : StartsWith event.expectedKey.value "executor-guidance:") :
    isExecutorGuidance event = true := by
  by_contra other
  revert starts
  cases event with
  | protocol event =>
      refine StartsWith.apart ((StartsWith.refl _).append _)
        (ProtocolEventKind.keyPrefix_apart_guidance event.kind ?_)
      simpa [isExecutorGuidance, and_assoc] using other
  | workflowRunBegan event =>
      exact StartsWith.apart (StartsWith.refl workflowRunBeganRecordKey.value) (by decide)
  | workflowRunTerminated event =>
      exact StartsWith.apart (StartsWith.refl workflowRunTerminatedRecordKey.value) (by decide)
  | runCancellationApplied =>
      exact StartsWith.apart (StartsWith.refl runCancellationAppliedRecordKey.value) (by decide)
  | _ =>
      apply StartsWith.apart
      · repeat apply StartsWith.append
        exact StartsWith.refl _
      · decide

def Recorded (records : List JournalRecord) (guidance : ExecutorGuidanceJournalEvent) : Prop :=
  ∃ record ∈ records, record.event = guidance.event

def Unused (records : List JournalRecord) (key : JournalRecordKey) : Prop :=
  ∀ record ∈ records, record.key ≠ key

/-- Accepted records whose guidance the control wrote. -/
structure GuidedRecords (runId : RunId) (records : List JournalRecord) : Prop where
  canonical : Canonical runId records
  written : ∀ record ∈ records, isExecutorGuidance record.event = true →
    ∃ guidance : ExecutorGuidanceJournalEvent, record.event = guidance.event

namespace GuidedRecords

variable {runId : RunId} {records : List JournalRecord} {source : JournalHistorySource}
  {guidance : ExecutorGuidanceJournalEvent} {requestId : ExecutorGuidanceRequestId}

theorem find_of_recorded (guided : GuidedRecords runId records) (presents : Presents source records)
    (recorded : Recorded records guidance) :
    ∃ record, journalRecordByKey guidance.event.expectedKey source = some record ∧
      record.event = guidance.event := by
  obtain ⟨record, member, same⟩ := recorded
  refine ⟨record, ?_, same⟩
  rw [presents.recordByKey, ← same]
  exact guided.canonical.find_key member

theorem guidance_of_key (guided : GuidedRecords runId records) {record : JournalRecord}
    (member : record ∈ records) (key : record.key = guidance.event.expectedKey) :
    ∃ other : ExecutorGuidanceJournalEvent, record.event = other.event ∧
      other.requestId = guidance.requestId ∧ other.kind = guidance.kind := by
  rw [guided.canonical.keyed record member] at key
  have starts : StartsWith record.event.expectedKey.value "executor-guidance:" := by
    rw [key, ExecutorGuidanceJournalEvent.expectedKey_value]
    exact (StartsWith.refl _).append _
  obtain ⟨other, same⟩ := guided.written record member (isExecutorGuidance_of_startsWith starts)
  rw [same] at key
  exact ⟨other, same, ExecutorGuidanceJournalEvent.expectedKey_inj key⟩

theorem recorded_of_find (guided : GuidedRecords runId records) (presents : Presents source records)
    {record : JournalRecord}
    (found : journalRecordByKey guidance.event.expectedKey source = some record) :
    ∃ other : ExecutorGuidanceJournalEvent, record.event = other.event ∧ Recorded records other ∧
      other.requestId = guidance.requestId ∧ other.kind = guidance.kind := by
  rw [presents.recordByKey] at found
  have member := List.mem_of_find?_eq_some found
  have key : record.key = guidance.event.expectedKey := by simpa using List.find?_some found
  obtain ⟨other, same, alike⟩ := guided.guidance_of_key member key
  exact ⟨other, same, ⟨record, member, same⟩, alike⟩

theorem find_eq_none (presents : Presents source records) {key : JournalRecordKey} :
    journalRecordByKey key source = none ↔ Unused records key := by
  rw [presents.recordByKey, List.find?_eq_none]
  simp [Unused]

section

variable (guided : GuidedRecords runId records)
include guided

theorem not_recorded_of_unused (unused : Unused records guidance.event.expectedKey) :
    ¬ Recorded records guidance := by
  rintro ⟨record, member, same⟩
  refine unused record member ?_
  rw [guided.canonical.keyed record member, same]

variable (presents : Presents source records)
include presents

theorem admittedMetadata?_eq_some {metadata : ExecutorGuidanceMetadata} :
    admittedMetadata? source requestId = some metadata ↔
      Recorded records (.admitted metadata) ∧ metadata.requestId = requestId := by
  constructor
  · intro found
    unfold admittedMetadata? at found
    cases under : journalRecordByKey (executorGuidanceAdmittedRecordKey requestId) source with
    | none =>
        rw [under] at found
        cases found
    | some record =>
        have key := ExecutorGuidanceJournalEvent.admitted_expectedKey { metadata with requestId }
        rw [← key] at under
        obtain ⟨other, same, recorded, requests, kinds⟩ := guided.recorded_of_find presents under
        rw [key] at under
        rw [under, Option.bind_some, same, executorGuidanceEvent?_event] at found
        cases other with
        | admitted kept =>
            cases found
            exact ⟨recorded, requests⟩
        | dispatchIntended => cases found
        | observed => cases found
  · rintro ⟨recorded, rfl⟩
    obtain ⟨record, under, same⟩ := guided.find_of_recorded presents recorded
    rw [ExecutorGuidanceJournalEvent.admitted_expectedKey] at under
    unfold admittedMetadata?
    rw [under, Option.bind_some, same, executorGuidanceEvent?_event]

theorem observedDisposition?_eq_some {disposition : ExecutorGuidanceTransmission} :
    observedDisposition? source requestId = some disposition ↔
      Recorded records (.observed requestId disposition) := by
  constructor
  · intro found
    unfold observedDisposition? at found
    cases under : journalRecordByKey (executorGuidanceObservedRecordKey requestId) source with
    | none =>
        rw [under] at found
        cases found
    | some record =>
        have key := ExecutorGuidanceJournalEvent.observed_expectedKey requestId disposition
        rw [← key] at under
        obtain ⟨other, same, recorded, requests, kinds⟩ := guided.recorded_of_find presents under
        rw [key] at under
        rw [under, Option.bind_some, same, executorGuidanceEvent?_event] at found
        cases other with
        | admitted => cases found
        | dispatchIntended => cases found
        | observed kept =>
            cases found
            obtain rfl : kept = requestId := requests
            exact recorded
  · intro recorded
    obtain ⟨record, under, same⟩ := guided.find_of_recorded presents recorded
    rw [ExecutorGuidanceJournalEvent.observed_expectedKey] at under
    unfold observedDisposition?
    rw [under, Option.bind_some, same, executorGuidanceEvent?_event]

theorem dispatchIntended_of_recorded {target : ExecutorGuidanceTarget}
    (recorded : Recorded records (.dispatchIntended requestId target)) :
    dispatchIntended source requestId = true := by
  obtain ⟨record, under, same⟩ := guided.find_of_recorded presents recorded
  rw [ExecutorGuidanceJournalEvent.dispatchIntended_expectedKey] at under
  unfold dispatchIntended
  rw [under, Option.bind_some, same, executorGuidanceEvent?_event]

theorem exists_intended (target : ExecutorGuidanceTarget)
    (taken : journalRecordByKey (executorGuidanceDispatchIntendedRecordKey requestId) source ≠ none)
    : ∃ intended, Recorded records (.dispatchIntended requestId intended) := by
  obtain ⟨record, under⟩ := Option.ne_none_iff_exists'.mp taken
  rw [← ExecutorGuidanceJournalEvent.dispatchIntended_expectedKey requestId target] at under
  obtain ⟨other, _, recorded, requests, kinds⟩ := guided.recorded_of_find presents under
  cases other with
  | admitted => cases kinds
  | dispatchIntended kept intended =>
      obtain rfl : kept = requestId := requests
      exact ⟨intended, recorded⟩
  | observed => cases kinds

theorem exists_admitted (plannedAttempt : PlannedTaskAttempt)
    (taken : journalRecordByKey (executorGuidanceAdmittedRecordKey requestId) source ≠ none) :
    ∃ metadata, Recorded records (.admitted metadata) ∧ metadata.requestId = requestId := by
  obtain ⟨record, under⟩ := Option.ne_none_iff_exists'.mp taken
  have key := ExecutorGuidanceJournalEvent.admitted_expectedKey ⟨requestId, plannedAttempt, "", 0⟩
  rw [← key] at under
  obtain ⟨other, _, recorded, requests, kinds⟩ := guided.recorded_of_find presents under
  cases other with
  | admitted metadata => exact ⟨metadata, recorded, requests⟩
  | dispatchIntended => cases kinds
  | observed => cases kinds

theorem exists_observed
    (taken : journalRecordByKey (executorGuidanceObservedRecordKey requestId) source ≠ none) :
    ∃ disposition, Recorded records (.observed requestId disposition) := by
  obtain ⟨record, under⟩ := Option.ne_none_iff_exists'.mp taken
  rw [← ExecutorGuidanceJournalEvent.observed_expectedKey requestId .unknown] at under
  obtain ⟨other, _, recorded, requests, kinds⟩ := guided.recorded_of_find presents under
  cases other with
  | admitted => cases kinds
  | dispatchIntended => cases kinds
  | observed kept disposition =>
      obtain rfl : kept = requestId := requests
      exact ⟨disposition, recorded⟩

end

/-- What is kept of an earlier delivery, and what it is read from. -/
inductive Redelivered (records : List JournalRecord) (metadata : ExecutorGuidanceMetadata) :
    ExecutorGuidanceRedelivery → Prop
  | new (unadmitted : Unused records (executorGuidanceAdmittedRecordKey metadata.requestId)) :
      Redelivered records metadata .new
  | contradiction {other : ExecutorGuidanceMetadata} (admitted : Recorded records (.admitted other))
      (same : other.requestId = metadata.requestId) (differs : other ≠ metadata) :
      Redelivered records metadata .contradiction
  | retained {disposition : ExecutorGuidanceTransmission}
      (admitted : Recorded records (.admitted metadata))
      (observed : Recorded records (.observed metadata.requestId disposition)) :
      Redelivered records metadata (.retained disposition)
  | lost (admitted : Recorded records (.admitted metadata))
      (unobserved : Unused records (executorGuidanceObservedRecordKey metadata.requestId))
      (unintended : Unused records (executorGuidanceDispatchIntendedRecordKey metadata.requestId)) :
      Redelivered records metadata (.observe (.refused .payloadLost))
  | unknown {target : ExecutorGuidanceTarget} (admitted : Recorded records (.admitted metadata))
      (unobserved : Unused records (executorGuidanceObservedRecordKey metadata.requestId))
      (intended : Recorded records (.dispatchIntended metadata.requestId target)) :
      Redelivered records metadata (.observe .unknown)

theorem redelivered (guided : GuidedRecords runId records) (presents : Presents source records)
    (metadata : ExecutorGuidanceMetadata) :
    Redelivered records metadata (executorGuidanceRedelivery source metadata) := by
  unfold executorGuidanceRedelivery
  by_cases unadmitted :
      journalRecordByKey (executorGuidanceAdmittedRecordKey metadata.requestId) source = none
  · rw [if_pos (by rw [unadmitted]; rfl)]
    exact .new ((find_eq_none presents).mp unadmitted)
  · rw [if_neg (by simpa using unadmitted)]
    obtain ⟨known, recorded, same⟩ :=
      guided.exists_admitted presents metadata.plannedAttempt unadmitted
    have admitted := (guided.admittedMetadata?_eq_some presents).mpr ⟨recorded, same⟩
    by_cases differs : known = metadata
    · subst differs
      rw [if_neg (not_not.mpr admitted)]
      by_cases unobserved :
          journalRecordByKey (executorGuidanceObservedRecordKey known.requestId) source = none
      · have none : observedDisposition? source known.requestId = none := by
          rw [observedDisposition?, unobserved]
          rfl
        rw [none]
        dsimp only
        by_cases unintended : journalRecordByKey
            (executorGuidanceDispatchIntendedRecordKey known.requestId) source = Option.none
        · rw [if_pos (by rw [unintended]; rfl)]
          exact .lost recorded ((find_eq_none presents).mp unobserved)
            ((find_eq_none presents).mp unintended)
        · rw [if_neg (by simpa using unintended)]
          obtain ⟨target, intended⟩ :=
            guided.exists_intended presents ⟨known.plannedAttempt, "", ""⟩ unintended
          exact .unknown recorded ((find_eq_none presents).mp unobserved) intended
      · obtain ⟨disposition, observed⟩ := guided.exists_observed presents unobserved
        rw [(guided.observedDisposition?_eq_some presents).mpr observed]
        exact .retained recorded observed
    · rw [if_pos (by rw [admitted]; exact fun equal => differs (Option.some.inj equal))]
      exact .contradiction recorded same differs

end GuidedRecords

theorem acceptedRecords_cases (runId : RunId) (records : List JournalRecord)
    (event : WorkflowJournalEvent) :
    (∃ existing ∈ records, existing.key = event.expectedKey ∧
        acceptedRecords runId records event = (decide (existing.event = event), records)) ∨
      (Unused records event.expectedKey ∧ acceptedRecords runId records event =
        (true, records ++ [⟨event, event.expectedKey, records.length + 1, runId⟩])) := by
  unfold acceptedRecords
  cases found : records.find? fun record => record.key = event.expectedKey with
  | none =>
      refine Or.inr ⟨?_, rfl⟩
      rw [List.find?_eq_none] at found
      simpa [Unused] using found
  | some existing =>
      have key := List.find?_some found
      exact Or.inl ⟨existing, List.mem_of_find?_eq_some found, by simpa using key, rfl⟩

theorem Canonical.snoc {runId : RunId} {records : List JournalRecord}
    (canonical : Canonical runId records) {event : WorkflowJournalEvent}
    (unused : Unused records event.expectedKey) :
    Canonical runId (records ++ [⟨event, event.expectedKey, records.length + 1, runId⟩]) :=
  canonical.extended rfl rfl rfl unused

section

variable {runId : RunId} {records : List JournalRecord} {source other : JournalHistorySource}
  {attempt : PlannedTaskAttempt} {requestId : ExecutorGuidanceRequestId}

theorem unanswered_of_endsGuidance {record : JournalRecord}
    (ends : endsGuidanceOf attempt record.event = true) :
    worktreeOutcomeOperationId? record = none := by
  obtain ⟨event, _, _, _⟩ := record
  cases event <;> simp_all [endsGuidanceOf, worktreeOutcomeOperationId?]

theorem any_endsGuidanceOf (presents : Presents source records) :
    (journalRecordsForAttempt attempt.attemptId source).any (endsGuidanceOf attempt ·.event) =
      records.any fun record =>
        endsGuidanceOf attempt record.event && decide (attempt.attemptId ∈ attemptIdsOf record) := by
  have filtered := @Presents.recordsForAttempt_filter source records presents attempt.attemptId
    (fun record => endsGuidanceOf attempt record.event) fun record => unanswered_of_endsGuidance
  have whole : ∀ (items : List JournalRecord) (test : JournalRecord → Bool),
      items.any test = (items.filter test).any fun _ => true := by simp [List.any_filter]
  rw [whole, filtered, ← whole]

theorem executorGuidanceDispatchProblem_eq_none (presents : Presents source records)
    (unended : records.any (endsGuidanceOf attempt ·.event) = false)
    (planned : (recordedTaskAttemptPlanFor source attempt).isSome)
    (works : (latestAcceptedPlannedAttemptExecutorEvidence source attempt none).any
      (·.report.isExecuting)) :
    executorGuidanceDispatchProblem source attempt = none := by
  have beyond : (journalRecordsForAttempt attempt.attemptId source).any
      (endsGuidanceOf attempt ·.event) = false := by
    rw [any_endsGuidanceOf presents, List.any_eq_false]
    intro record member
    simp [List.any_eq_false.mp unended record member]
  simp [executorGuidanceDispatchProblem, Option.isSome_iff_ne_none.mp planned, works, beyond]

theorem executorGuidanceDispatchProblem_congr (presents : Presents source records)
    (shown : Presents other records) (same : SameKind source other) :
    executorGuidanceDispatchProblem source attempt =
      executorGuidanceDispatchProblem other attempt := by
  have planned : (recordedTaskAttemptPlanFor source attempt).isNone =
      (recordedTaskAttemptPlanFor other attempt).isNone := by
    rw [Bool.eq_iff_iff, Option.isNone_iff_eq_none, Option.isNone_iff_eq_none,
      ← Option.not_isSome_iff_eq_none, ← Option.not_isSome_iff_eq_none,
      recordedTaskAttemptPlanFor_isSome presents, recordedTaskAttemptPlanFor_isSome shown]
  have latest : latestPlannedAttemptExecutorEvidence other attempt none =
      latestPlannedAttemptExecutorEvidence source attempt none :=
    latestEvidence_append presents (by rwa [List.append_nil]) same fun record none =>
      absurd none List.not_mem_nil
  unfold executorGuidanceDispatchProblem latestAcceptedPlannedAttemptExecutorEvidence
  rw [planned, latest, any_endsGuidanceOf presents, any_endsGuidanceOf shown]

variable {metadata : ExecutorGuidanceMetadata}

theorem admitted_problem (presents : Presents source records)
    (owned : metadata.plannedAttempt.runId = runId)
    (planned : Planned records metadata.plannedAttempt)
    (unused : Unused records (executorGuidanceAdmittedRecordKey metadata.requestId)) :
    executorGuidanceEventProblem source runId (.admitted metadata) = none := by
  have found := (recordedTaskAttemptPlanFor_isSome presents).mpr planned
  have absent : admittedMetadata? source metadata.requestId = none := by
    rw [admittedMetadata?, (GuidedRecords.find_eq_none presents).mpr unused]
    rfl
  simp [executorGuidanceEventProblem, owned, absent, Option.isSome_iff_ne_none.mp found]

variable (guided : GuidedRecords runId records) (presents : Presents source records)
  (admitted : Recorded records (.admitted metadata)) (owned : metadata.plannedAttempt.runId = runId)
  (unobserved : Unused records (executorGuidanceObservedRecordKey metadata.requestId))
include guided presents admitted owned unobserved

theorem effect_problem (proceed : ExecutorGuidanceMetadata → Option String) :
    executorGuidanceEffectProblem source runId metadata.requestId proceed = proceed metadata := by
  have found := (guided.admittedMetadata?_eq_some presents).mpr ⟨admitted, rfl⟩
  unfold executorGuidanceEffectProblem
  rw [found, (GuidedRecords.find_eq_none presents).mpr unobserved]
  simp [owned]

theorem dispatchIntended_problem {target : ExecutorGuidanceTarget}
    (unintended : Unused records (executorGuidanceDispatchIntendedRecordKey metadata.requestId))
    (small : metadata.payloadBytes ≤ executorGuidanceTextByteLimit)
    (same : target.plannedAttempt = metadata.plannedAttempt) :
    executorGuidanceEventProblem source runId (.dispatchIntended metadata.requestId target) =
      executorGuidanceDispatchProblem source metadata.plannedAttempt := by
  rw [executorGuidanceEventProblem, effect_problem guided presents admitted owned unobserved,
    (GuidedRecords.find_eq_none presents).mpr unintended, if_neg (Nat.not_lt.mpr small)]
  simp [same]

theorem observed_problem {disposition : ExecutorGuidanceTransmission}
    (transmitted : (∀ reason, disposition ≠ .refused reason) →
      ∃ target, Recorded records (.dispatchIntended metadata.requestId target))
    (lost : disposition = .refused .payloadLost →
      Unused records (executorGuidanceDispatchIntendedRecordKey metadata.requestId)) :
    executorGuidanceEventProblem source runId (.observed metadata.requestId disposition) = none := by
  have settled := effect_problem guided presents admitted owned unobserved
  cases disposition with
  | refused reason =>
      rw [executorGuidanceEventProblem, settled]
      by_cases unsent : reason = .payloadLost
      · have unused := lost (congrArg _ unsent)
        rw [(GuidedRecords.find_eq_none presents).mpr unused]
        simp
      · simp [unsent]
  | accepted | unknown =>
      obtain ⟨target, intended⟩ := transmitted fun _ refused => by cases refused
      rw [executorGuidanceEventProblem, settled]
      exact if_pos (guided.dispatchIntended_of_recorded presents intended)

end

def HistoryReplay.reader : HistoryReplay → PrefixReader
  | .raw => .raw
  | .indexed => .indexed

def GuidanceAccepted (replay : HistoryReplay) (runId : RunId) (records : List JournalRecord) : Prop :=
  ∀ before record after guidance, records = before ++ record :: after →
    executorGuidanceEvent? record.event = some guidance →
      executorGuidanceEventProblem
        (priorRecords record.position (replay.source records before.length)) runId guidance = none

section

variable {replay : HistoryReplay} {runId : RunId} {records : List JournalRecord}
  {record : JournalRecord}

theorem priorRecords_append {before after : List JournalRecord} {earlier : JournalRecord}
    (canonical : Canonical runId (before ++ earlier :: after ++ [record])) :
    priorRecords earlier.position
        (replay.source (before ++ earlier :: after ++ [record]) before.length) =
      priorRecords earlier.position (replay.source (before ++ earlier :: after) before.length) := by
  cases replay with
  | raw =>
      have whole := canonical
      rw [List.append_assoc, List.cons_append] at whole
      simp only [HistoryReplay.source, priorRecords]
      rw [canonical.left.filter_before]
      simp only [List.append_assoc, List.cons_append]
      rw [whole.filter_before]
  | indexed =>
      have shorter : before.length + 1 ≤ (before ++ earlier :: after).length := by simp
      simp only [HistoryReplay.source]
      rw [List.take_append_of_le_length shorter]

theorem GuidanceAccepted.snoc (accepted : GuidanceAccepted replay runId records)
    (canonical : Canonical runId (records ++ [record]))
    (follows : ∀ source guidance, Presents source records →
      SameKind (replay.reader.source records) source →
        executorGuidanceEvent? record.event = some guidance →
          executorGuidanceEventProblem source runId guidance = none) :
    GuidanceAccepted replay runId (records ++ [record]) := by
  intro before earlier after guidance split decoded
  obtain rfl | ⟨rest, last, rfl⟩ := List.eq_nil_or_concat after
  · obtain ⟨rfl, same⟩ := List.append_inj' split rfl
    obtain rfl := List.cons.inj same |>.1
    refine follows _ guidance (canonical.presents_prior replay) ?_ decoded
    cases replay with
    | raw => trivial
    | indexed => trivial
  · rw [List.concat_eq_append, ← List.cons_append, ← List.append_assoc] at split
    obtain ⟨rfl, same⟩ := List.append_inj' split rfl
    obtain rfl := List.cons.inj same |>.1
    rw [priorRecords_append canonical]
    exact accepted before earlier rest guidance rfl decoded

end

end Dalph
