import Dalph.Coordination.Reconstruction.History
import Dalph.Workflow.ExecutorGuidance.Kept

/-!
# Guidance is sent at most once

Whatever other writers append between the steps of a call, a request is transmitted at most once and
behind its recorded intent.  Each event of the control follows the records before it as long as no
writer ends the work of an attempt between the last reading of a call and its intent.
-/

namespace Dalph

/-! ## The journal of a run -/

structure GuidanceJournal (runId : RunId) (replay : HistoryReplay) (records : List JournalRecord)
    (sends : List (ExecutorGuidanceRequestId × Nat)) : Prop where
  guided : GuidedRecords runId records
  accepted : GuidanceAccepted replay runId records
  sentOnce : (sends.map Prod.fst).Nodup
  intendedFirst : ∀ sent ∈ sends, ∃ target,
    Recorded (records.take sent.2) (.dispatchIntended sent.1 target)
  admittedFirst : ∀ guidance, Recorded records guidance →
    ∃ metadata, Recorded records (.admitted metadata) ∧ metadata.requestId = guidance.requestId

section

variable {runId : RunId} {replay : HistoryReplay} {records more : List JournalRecord}
  {sends : List (ExecutorGuidanceRequestId × Nat)} {event : WorkflowJournalEvent}
  {guidance : ExecutorGuidanceJournalEvent} {plannedAttempt : PlannedTaskAttempt}

theorem Recorded.append (recorded : Recorded records guidance) (more : List JournalRecord) :
    Recorded (records ++ more) guidance := by
  obtain ⟨record, member, same⟩ := recorded
  exact ⟨record, List.mem_append_left more member, same⟩

theorem Recorded.of_take {count : Nat} (recorded : Recorded (records.take count) guidance) :
    Recorded records guidance := by
  obtain ⟨record, member, same⟩ := recorded
  exact ⟨record, List.mem_of_mem_take member, same⟩

theorem Planned.append (planned : Planned records plannedAttempt) (more : List JournalRecord) :
    Planned (records ++ more) plannedAttempt := by
  obtain ⟨record, member, operation⟩ := planned
  exact ⟨record, List.mem_append_left more member, operation⟩

def nextRecord (runId : RunId) (records : List JournalRecord) (event : WorkflowJournalEvent) :
    JournalRecord :=
  ⟨event, event.expectedKey, records.length + 1, runId⟩

theorem acceptedRecords_of_unused (unused : Unused records event.expectedKey) :
    acceptedRecords runId records event = (true, records ++ [nextRecord runId records event]) := by
  obtain ⟨existing, member, key, _⟩ | ⟨_, same⟩ := acceptedRecords_cases runId records event
  · exact absurd key (unused existing member)
  · exact same

theorem Recorded.next (runId : RunId) (records : List JournalRecord)
    (guidance : ExecutorGuidanceJournalEvent) :
    Recorded (records ++ [nextRecord runId records guidance.event]) guidance :=
  ⟨_, List.mem_append_right records List.mem_cons_self, rfl⟩

theorem Unused.next {key : JournalRecordKey} (unused : Unused records key)
    (apart : event.expectedKey ≠ key) : Unused (records ++ [nextRecord runId records event]) key := by
  intro record member
  rw [List.mem_append, List.mem_singleton] at member
  obtain earlier | rfl := member
  · exact unused record earlier
  · exact apart

theorem executorGuidanceEvent_inj {other : ExecutorGuidanceJournalEvent}
    (same : guidance.event = other.event) : guidance = other := by
  have read := congrArg executorGuidanceEvent? same
  rwa [executorGuidanceEvent?_event, executorGuidanceEvent?_event, Option.some.injEq] at read

theorem executorGuidanceEvent?_eq_none (other : isExecutorGuidance event = false) :
    executorGuidanceEvent? event = none := by
  unfold executorGuidanceEvent?
  split
  · next event =>
      simp only [isExecutorGuidance, Bool.or_eq_false_iff, decide_eq_false_iff_not] at other
      obtain ⟨⟨admitted, intended⟩, observed⟩ := other
      split <;> simp_all
  · rfl

theorem expectedKey_ne_guidance (other : isExecutorGuidance event = false) {key : JournalRecordKey}
    (starts : StartsWith key.value "executor-guidance:") : event.expectedKey ≠ key := by
  intro same
  rw [← same] at starts
  rw [isExecutorGuidance_of_startsWith starts] at other
  cases other

section

variable (journal : GuidanceJournal runId replay records sends)
include journal

theorem GuidanceJournal.next (unused : Unused records event.expectedKey)
    (written : isExecutorGuidance event = true → ∃ guidance : ExecutorGuidanceJournalEvent,
      event = guidance.event)
    (follows : ∀ source guidance, Presents source records →
      SameKind (replay.reader.source records) source →
        executorGuidanceEvent? event = some guidance →
          executorGuidanceEventProblem source runId guidance = none)
    (admits : ∀ guidance : ExecutorGuidanceJournalEvent, event = guidance.event →
      ∃ metadata, Recorded (records ++ [nextRecord runId records event]) (.admitted metadata) ∧
        metadata.requestId = guidance.requestId) :
    GuidanceJournal runId replay (records ++ [nextRecord runId records event]) sends := by
  have canonical : Canonical runId (records ++ [nextRecord runId records event]) :=
    journal.guided.canonical.snoc unused
  refine ⟨⟨canonical, ?_⟩, journal.accepted.snoc canonical follows, journal.sentOnce, ?_, ?_⟩
  · intro record member
    rw [List.mem_append, List.mem_singleton] at member
    obtain earlier | rfl := member
    · exact journal.guided.written record earlier
    · exact written
  · intro sent member
    obtain ⟨target, recorded⟩ := journal.intendedFirst sent member
    rw [List.take_append]
    exact ⟨target, recorded.append _⟩
  · rintro guidance ⟨record, member, same⟩
    rw [List.mem_append, List.mem_singleton] at member
    obtain earlier | rfl := member
    · obtain ⟨metadata, admitted, request⟩ := journal.admittedFirst guidance ⟨record, earlier, same⟩
      exact ⟨metadata, admitted.append _, request⟩
    · exact admits guidance same

theorem GuidanceJournal.other (other : isExecutorGuidance event = false) :
    GuidanceJournal runId replay (acceptedRecords runId records event).2 sends := by
  obtain ⟨existing, _, _, same⟩ | ⟨unused, same⟩ := acceptedRecords_cases runId records event
  · rw [same]
    exact journal
  · rw [same]
    refine journal.next unused ?_ ?_ ?_
    · intro guidance
      rw [other] at guidance
      cases guidance
    · intro source guidance _ _ read
      rw [executorGuidanceEvent?_eq_none other] at read
      cases read
    · rintro guidance rfl
      rw [guidance.isExecutorGuidance_event] at other
      cases other

theorem GuidanceJournal.guide (unused : Unused records guidance.event.expectedKey)
    (follows : ∀ source, Presents source records → SameKind (replay.reader.source records) source →
      executorGuidanceEventProblem source runId guidance = none)
    (admits : ∃ metadata,
      Recorded (records ++ [nextRecord runId records guidance.event]) (.admitted metadata) ∧
        metadata.requestId = guidance.requestId) :
    GuidanceJournal runId replay (records ++ [nextRecord runId records guidance.event]) sends := by
  refine journal.next unused (fun _ => ⟨guidance, rfl⟩) ?_ ?_
  · intro source read presents same decoded
    rw [executorGuidanceEvent?_event] at decoded
    cases decoded
    exact follows source presents same
  · intro other same
    obtain rfl := executorGuidanceEvent_inj same
    exact admits

end

theorem GuidanceJournal.unused_of_unadmitted (journal : GuidanceJournal runId replay records sends)
    (unadmitted : Unused records (executorGuidanceAdmittedRecordKey guidance.requestId)) :
    Unused records guidance.event.expectedKey := by
  intro record member key
  obtain ⟨other, same, requests, _⟩ := journal.guided.guidance_of_key member key
  obtain ⟨metadata, admitted, request⟩ := journal.admittedFirst other ⟨record, member, same⟩
  rw [← requests, ← request, ← ExecutorGuidanceJournalEvent.admitted_expectedKey] at unadmitted
  exact journal.guided.not_recorded_of_unused unadmitted admitted

end

/-! ## The call that holds the control -/

/-- An admitted request that neither intended a transmission nor has a disposition. -/
structure OpenGuidance (control : ExecutorGuidanceControl) (records : List JournalRecord)
    (request : ApplyExecutorGuidanceRequest) : Prop where
  owned : request.plannedAttempt.runId = control.runId
  admitted : Recorded records (.admitted (control.metadata request))
  unintended : Unused records (executorGuidanceDispatchIntendedRecordKey request.requestId)
  unobserved : Unused records (executorGuidanceObservedRecordKey request.requestId)

/-- A disposition that may be recorded. -/
structure ClosingGuidance (runId : RunId) (records : List JournalRecord)
    (requestId : ExecutorGuidanceRequestId) (disposition : ExecutorGuidanceTransmission) : Prop where
  admitted : ∃ metadata, Recorded records (.admitted metadata) ∧ metadata.requestId = requestId ∧
    metadata.plannedAttempt.runId = runId
  unobserved : Unused records (executorGuidanceObservedRecordKey requestId)
  transmitted : (∀ reason, disposition ≠ .refused reason) →
    ∃ target, Recorded records (.dispatchIntended requestId target)
  lost : disposition = .refused .payloadLost →
    Unused records (executorGuidanceDispatchIntendedRecordKey requestId)

def SmallGuidance (request : ApplyExecutorGuidanceRequest) : Prop :=
  request.text.toUTF8.size ≤ executorGuidanceTextByteLimit

/-- What is true of a call where it stands. -/
def CallSound (control : ExecutorGuidanceControl) (records : List JournalRecord)
    (sends : List (ExecutorGuidanceRequestId × Nat)) : ExecutorGuidanceCall → Prop
  | .applying request => request.plannedAttempt.runId = control.runId
  | .admitting request _ =>
      request.plannedAttempt.runId = control.runId ∧
        Unused records (executorGuidanceAdmittedRecordKey request.requestId) ∧
        Unused records (executorGuidanceDispatchIntendedRecordKey request.requestId) ∧
        Unused records (executorGuidanceObservedRecordKey request.requestId) ∧
        Planned records request.plannedAttempt
  | .selecting request => OpenGuidance control records request ∧ SmallGuidance request
  | .rereading request target | .intending request target =>
      OpenGuidance control records request ∧ SmallGuidance request ∧
        target.plannedAttempt = request.plannedAttempt
  | .sending request target =>
      request.plannedAttempt.runId = control.runId ∧
        Recorded records (.admitted (control.metadata request)) ∧
        Recorded records (.dispatchIntended request.requestId target) ∧
        Unused records (executorGuidanceObservedRecordKey request.requestId) ∧
        ∀ sent ∈ sends, sent.1 ≠ request.requestId
  | .observing requestId disposition =>
      ClosingGuidance control.runId records requestId disposition

/-! ## Steps of other writers -/

section

variable {control : ExecutorGuidanceControl} {replay : HistoryReplay}
  {records : List JournalRecord} {sends : List (ExecutorGuidanceRequestId × Nat)}
  {event : WorkflowJournalEvent} {request : ApplyExecutorGuidanceRequest}
  {requestId : ExecutorGuidanceRequestId} {target : ExecutorGuidanceTarget}

section

variable (requestId : ExecutorGuidanceRequestId)

theorem admittedRecordKey_startsWith :
    StartsWith (executorGuidanceAdmittedRecordKey requestId).value "executor-guidance:" :=
  ((StartsWith.refl _).append _).append _

theorem dispatchIntendedRecordKey_startsWith :
    StartsWith (executorGuidanceDispatchIntendedRecordKey requestId).value "executor-guidance:" :=
  ((StartsWith.refl _).append _).append _

theorem observedRecordKey_startsWith :
    StartsWith (executorGuidanceObservedRecordKey requestId).value "executor-guidance:" :=
  ((StartsWith.refl _).append _).append _

end

theorem CallSound.other {call : ExecutorGuidanceCall} (sound : CallSound control records sends call)
    (other : isExecutorGuidance event = false) :
    CallSound control (acceptedRecords control.runId records event).2 sends call := by
  obtain ⟨_, _, _, same⟩ | ⟨_, same⟩ := acceptedRecords_cases control.runId records event
  · rw [same]
    exact sound
  · rw [same]
    have kept : ∀ {key : JournalRecordKey}, StartsWith key.value "executor-guidance:" →
        Unused records key → Unused (records ++ [nextRecord control.runId records event]) key :=
      fun starts unused => unused.next (expectedKey_ne_guidance other starts)
    have open_ : ∀ {request}, OpenGuidance control records request →
        OpenGuidance control (records ++ [nextRecord control.runId records event]) request :=
      fun opened => ⟨opened.owned, opened.admitted.append _,
        kept (dispatchIntendedRecordKey_startsWith _) opened.unintended,
        kept (observedRecordKey_startsWith _) opened.unobserved⟩
    cases call with
    | applying request => exact sound
    | admitting request seen =>
        obtain ⟨owned, unadmitted, unintended, unobserved, planned⟩ := sound
        exact ⟨owned, kept (admittedRecordKey_startsWith _) unadmitted,
          kept (dispatchIntendedRecordKey_startsWith _) unintended,
          kept (observedRecordKey_startsWith _) unobserved, planned.append _⟩
    | selecting request => exact ⟨open_ sound.1, sound.2⟩
    | rereading request target => exact ⟨open_ sound.1, sound.2⟩
    | intending request target => exact ⟨open_ sound.1, sound.2⟩
    | sending request target =>
        obtain ⟨owned, admitted, intended, unobserved, unsent⟩ := sound
        exact ⟨owned, admitted.append _, intended.append _,
          kept (observedRecordKey_startsWith _) unobserved, unsent⟩
    | observing requestId disposition =>
        obtain ⟨⟨metadata, admitted, named⟩, unobserved, transmitted, lost⟩ := sound
        refine ⟨⟨metadata, admitted.append _, named⟩,
          kept (observedRecordKey_startsWith _) unobserved, ?_, ?_⟩
        · intro sent
          obtain ⟨target, intended⟩ := transmitted sent
          exact ⟨target, intended.append _⟩
        · exact fun unsent => kept (dispatchIntendedRecordKey_startsWith _) (lost unsent)

/-! ## Steps of the call -/

theorem OpenGuidance.refused (opened : OpenGuidance control records request)
    (reason : ExecutorGuidanceRefusalReason) :
    ClosingGuidance control.runId records request.requestId (.refused reason) where
  admitted := ⟨control.metadata request, opened.admitted, rfl, opened.owned⟩
  unobserved := opened.unobserved
  transmitted := fun sent => absurd rfl (sent reason)
  lost := fun _ => opened.unintended

theorem afterReading_sound (journal : GuidanceJournal control.runId replay records sends)
    (owned : request.plannedAttempt.runId = control.runId) {call : ExecutorGuidanceCall}
    (next : (control.afterReading request records).2 = some call) :
    CallSound control records sends call := by
  have guided := journal.guided
  have presents := control.accepted.presents records guided.canonical.chronological
  have redelivered := guided.redelivered presents (control.metadata request)
  unfold ExecutorGuidanceControl.afterReading at next
  dsimp only at next
  generalize executorGuidanceRedelivery (control.accepted.source records)
    (control.metadata request) = redelivery at redelivered next
  cases redelivered with
  | contradiction => cases next
  | retained => cases next
  | new unadmitted =>
      dsimp only at next
      split_ifs at next with unplanned
      cases next
      -- Effects stand behind their admission, so none is recorded.
      have unintended := @GuidanceJournal.unused_of_unadmitted _ _ _ _
        (.dispatchIntended request.requestId ⟨request.plannedAttempt, "", ""⟩) journal unadmitted
      have unobserved := @GuidanceJournal.unused_of_unadmitted _ _ _ _
        (.observed request.requestId .unknown) journal unadmitted
      rw [ExecutorGuidanceJournalEvent.dispatchIntended_expectedKey] at unintended
      rw [ExecutorGuidanceJournalEvent.observed_expectedKey] at unobserved
      rw [← Option.not_isSome, Bool.not_eq_true', Bool.not_eq_false] at unplanned
      exact ⟨owned, unadmitted, unintended, unobserved,
        (recordedTaskAttemptPlanFor_isSome presents).mp unplanned⟩
  | lost admitted unobserved unintended =>
      cases next
      exact ⟨⟨_, admitted, rfl, owned⟩, unobserved, fun sent => absurd rfl (sent .payloadLost),
        fun _ => unintended⟩
  | unknown admitted unobserved intended =>
      cases next
      refine ⟨⟨_, admitted, rfl, owned⟩, unobserved, fun _ => ⟨_, intended⟩, ?_⟩
      intro unsent
      cases unsent

section

variable (opened : OpenGuidance control records request)
include opened

theorem afterAdmission_sound {seen : List JournalRecord} :
    CallSound control records sends (control.afterAdmission request seen) := by
  unfold ExecutorGuidanceControl.afterAdmission
  split_ifs with large kept
  · exact opened.refused .textTooLarge
  · exact opened.refused .attemptInactive
  · exact ⟨opened, Nat.le_of_not_lt large⟩

theorem afterSelection_sound (small : SmallGuidance request)
    (selection : Option ExecutorGuidanceSelection) :
    CallSound control records sends
      (ExecutorGuidanceControl.afterSelection request selection) := by
  cases selection with
  | none => exact opened.refused .capabilityUnavailable
  | some selection =>
      cases selection with
      | refused reason => exact opened.refused reason
      | selected target =>
          unfold ExecutorGuidanceControl.afterSelection
          dsimp only
          split_ifs with differs
          · exact opened.refused .targetChanged
          · exact ⟨opened, small, not_not.mp differs⟩

theorem afterRereading_sound (small : SmallGuidance request)
    (same : target.plannedAttempt = request.plannedAttempt) :
    CallSound control records sends (control.afterRereading request target records) := by
  unfold ExecutorGuidanceControl.afterRereading
  split_ifs with kept
  · exact opened.refused .attemptInactive
  · exact ⟨opened, small, same⟩

end

theorem OpenGuidance.admitted_next (owned : request.plannedAttempt.runId = control.runId)
    (unintended : Unused records (executorGuidanceDispatchIntendedRecordKey request.requestId))
    (unobserved : Unused records (executorGuidanceObservedRecordKey request.requestId)) :
    OpenGuidance control
      (records ++ [nextRecord control.runId records
        (ExecutorGuidanceJournalEvent.admitted (control.metadata request)).event]) request where
  owned := owned
  admitted := Recorded.next _ _ _
  unintended := by
    refine unintended.next fun same => ?_
    rw [← ExecutorGuidanceJournalEvent.dispatchIntended_expectedKey _
      ⟨request.plannedAttempt, "", ""⟩] at same
    cases (ExecutorGuidanceJournalEvent.expectedKey_inj same).2
  unobserved := by
    refine unobserved.next fun same => ?_
    rw [← ExecutorGuidanceJournalEvent.observed_expectedKey _ .unknown] at same
    cases (ExecutorGuidanceJournalEvent.expectedKey_inj same).2

theorem OpenGuidance.sending (opened : OpenGuidance control records request)
    (journal : GuidanceJournal control.runId replay records sends)
    (target : ExecutorGuidanceTarget) :
    CallSound control
      (records ++ [nextRecord control.runId records
        (ExecutorGuidanceJournalEvent.dispatchIntended request.requestId target).event]) sends
      (.sending request target) := by
  refine ⟨opened.owned, opened.admitted.append _, Recorded.next _ _ _, ?_, ?_⟩
  · refine opened.unobserved.next fun same => ?_
    rw [← ExecutorGuidanceJournalEvent.observed_expectedKey _ .unknown] at same
    cases (ExecutorGuidanceJournalEvent.expectedKey_inj same).2
  · intro sent member same
    obtain ⟨intended, recorded⟩ := journal.intendedFirst sent member
    have unintended := opened.unintended
    rw [same] at recorded
    rw [← ExecutorGuidanceJournalEvent.dispatchIntended_expectedKey _ intended] at unintended
    exact journal.guided.not_recorded_of_unused unintended recorded.of_take

end

/-! ## Every step -/

/-- What is true of every state. -/
structure GuidanceKept (control : ExecutorGuidanceControl) (replay : HistoryReplay)
    (state : ExecutorGuidanceState) : Prop where
  journal : GuidanceJournal control.runId replay state.records state.sends
  waiting : ∀ request ∈ state.waiting, request.plannedAttempt.runId = control.runId
  call : ∀ call ∈ state.call, CallSound control state.records state.sends call

/-- No writer ended the work of the attempt since the last reading of the call, and the executor
does not answer a transmission with text that was lost. -/
def DispatchUndisturbed (replay : HistoryReplay) (action : ExecutorGuidanceAction)
    (state : ExecutorGuidanceState) : Prop :=
  match action, state.call with
  | .intend _, some (.intending request _) =>
      executorGuidanceDispatchProblem (replay.reader.source state.records)
        request.plannedAttempt = none
  | .transmit answer, some (.sending _ _) => answer ≠ some (.refused .payloadLost)
  | _, _ => True

instance (replay : HistoryReplay) (action : ExecutorGuidanceAction) (state : ExecutorGuidanceState) :
    Decidable (DispatchUndisturbed replay action state) := by
  unfold DispatchUndisturbed
  split <;> infer_instance

section

variable {control : ExecutorGuidanceControl} {replay : HistoryReplay}
  {state : ExecutorGuidanceState} {guidance : ExecutorGuidanceJournalEvent}

open ExecutorGuidanceState

theorem GuidanceKept.idle (kept : GuidanceKept control replay state) :
    GuidanceKept control replay { state with call := none } :=
  ⟨kept.journal, kept.waiting, fun _ absent => by cases absent⟩

theorem GuidanceKept.appending (kept : GuidanceKept control replay state)
    {answer : JournalAppendAnswer} {reply : Option ExecutorGuidanceReply}
    {call : Option ExecutorGuidanceCall} (unused : Unused state.records guidance.event.expectedKey)
    (follows : ∀ source, Presents source state.records →
      SameKind (replay.reader.source state.records) source →
        executorGuidanceEventProblem source control.runId guidance = none)
    (admits : ∃ metadata,
      Recorded (state.records ++ [nextRecord control.runId state.records guidance.event])
          (.admitted metadata) ∧ metadata.requestId = guidance.requestId)
    (sound : ∀ next ∈ call, CallSound control
      (state.records ++ [nextRecord control.runId state.records guidance.event]) state.sends next) :
    GuidanceKept control replay (state.appending control answer guidance reply call).2 := by
  have appended := @acceptedRecords_of_unused control.runId _ _ unused
  have journal := kept.journal.guide unused follows admits
  unfold ExecutorGuidanceState.appending JournalAppendAnswer.append
  cases answer with
  | acknowledged =>
      dsimp only
      rw [appended]
      exact ⟨journal, kept.waiting, sound⟩
  | refused => exact kept.idle
  | unacknowledged =>
      dsimp only
      rw [appended]
      exact ⟨journal, kept.waiting, fun _ absent => by cases absent⟩

theorem GuidanceKept.queued (kept : GuidanceKept control replay state)
    (request : ApplyExecutorGuidanceRequest) :
    GuidanceKept control replay (state.queued control request).2 := by
  unfold ExecutorGuidanceState.queued
  split_ifs with foreign
  · exact kept
  · refine ⟨kept.journal, ?_, kept.call⟩
    intro waiting member
    rw [List.mem_append, List.mem_singleton] at member
    obtain earlier | rfl := member
    · exact kept.waiting waiting earlier
    · exact not_not.mp foreign

variable {target : ExecutorGuidanceTarget}

theorem GuidanceKept.transmitted (kept : GuidanceKept control replay state)
    {request : ApplyExecutorGuidanceRequest} (stands : state.call = some (.sending request target))
    {answer : Option ExecutorGuidanceTransmission} (kind : answer ≠ some (.refused .payloadLost)) :
    GuidanceKept control replay
      { state with
        sends := state.sends ++ [(request.requestId, state.records.length)]
        call := answer.map (.observing request.requestId) } := by
  obtain ⟨owned, admitted, intended, unobserved, unsent⟩ := kept.call _ stands
  have journal := kept.journal
  refine ⟨⟨journal.guided, journal.accepted, ?_, ?_, journal.admittedFirst⟩, kept.waiting, ?_⟩
  · rw [List.map_append, List.nodup_append]
    refine ⟨journal.sentOnce, List.nodup_singleton _, ?_⟩
    intro first member second alone same
    obtain ⟨sent, listed, rfl⟩ := List.mem_map.mp member
    rw [List.map_singleton, List.mem_singleton] at alone
    exact unsent sent listed (same.trans alone)
  · intro sent member
    rw [List.mem_append, List.mem_singleton] at member
    obtain earlier | rfl := member
    · exact journal.intendedFirst sent earlier
    · rw [List.take_length]
      exact ⟨target, intended⟩
  · intro call next
    obtain ⟨disposition, rfl, rfl⟩ := Option.map_eq_some_iff.mp next
    refine ⟨⟨_, admitted, rfl, owned⟩, unobserved, fun _ => ⟨target, intended⟩, ?_⟩
    rintro rfl
    exact absurd rfl kind

theorem GuidanceKept.intent_problem (kept : GuidanceKept control replay state)
    {request : ApplyExecutorGuidanceRequest}
    (stands : state.call = some (.intending request target)) {source : JournalHistorySource}
    (presents : Presents source state.records)
    (kind : SameKind (replay.reader.source state.records) source) :
    executorGuidanceEventProblem source control.runId
        (.dispatchIntended request.requestId target) =
      executorGuidanceDispatchProblem (replay.reader.source state.records)
        request.plannedAttempt := by
  obtain ⟨opened, small, same⟩ := kept.call _ stands
  have reads := replay.reader.presents state.records kept.journal.guided.canonical.chronological
  have problem := dispatchIntended_problem kept.journal.guided presents opened.admitted
    opened.owned opened.unobserved opened.unintended small same
  have alike := @executorGuidanceDispatchProblem_congr state.records _ _
    (control.metadata request).plannedAttempt reads presents kind
  exact problem.trans alike.symm

/-- Every step that is not disturbed keeps what is true of a state. -/
theorem step_kept (action : ExecutorGuidanceAction) (state : ExecutorGuidanceState)
    (undisturbed : DispatchUndisturbed replay action state) (kept : GuidanceKept control replay state) :
    GuidanceKept control replay (step control action state).2 := by
  unfold step
  split
  next event =>
    split_ifs with guidance
    · exact kept
    · have other : isExecutorGuidance event = false := by simpa using guidance
      exact ⟨kept.journal.other other, kept.waiting, fun call stands =>
        (kept.call call stands).other other⟩
  next request => exact kept.queued request
  next request =>
    split
    · exact kept
    · exact kept.queued _
  next index _ =>
    split
    · exact kept
    next request chosen =>
      refine ⟨kept.journal, fun waiting member =>
        kept.waiting waiting (List.mem_of_mem_eraseIdx member), ?_⟩
      rintro call ⟨⟩
      exact kept.waiting request (List.mem_of_getElem? chosen)
  next request stands =>
    exact ⟨kept.journal, kept.waiting, fun call next =>
      afterReading_sound kept.journal (kept.call _ stands) next⟩
  next answer request seen stands =>
    obtain ⟨owned, unadmitted, unintended, unobserved, planned⟩ := kept.call _ stands
    refine kept.appending ?_ (fun source presents _ => admitted_problem presents owned planned unadmitted)
      ⟨_, Recorded.next _ _ _, rfl⟩ ?_
    · rw [ExecutorGuidanceJournalEvent.admitted_expectedKey]
      exact unadmitted
    · rintro call ⟨⟩
      exact afterAdmission_sound (OpenGuidance.admitted_next owned unintended unobserved)
  next selection request stands =>
    obtain ⟨opened, small⟩ := kept.call _ stands
    refine ⟨kept.journal, kept.waiting, ?_⟩
    rintro call ⟨⟩
    exact afterSelection_sound opened small selection
  next request target stands =>
    obtain ⟨opened, small, same⟩ := kept.call _ stands
    refine ⟨kept.journal, kept.waiting, ?_⟩
    rintro call ⟨⟩
    exact afterRereading_sound opened small same
  next answer request target stands =>
    obtain ⟨opened, small, same⟩ := kept.call _ stands
    have unkept : executorGuidanceDispatchProblem (replay.reader.source state.records)
        request.plannedAttempt = none := by
      simpa [DispatchUndisturbed, stands] using undisturbed
    refine kept.appending ?_ ?_ ⟨_, opened.admitted.append _, rfl⟩ ?_
    · rw [ExecutorGuidanceJournalEvent.dispatchIntended_expectedKey]
      exact opened.unintended
    · exact fun source presents kind => (kept.intent_problem stands presents kind).trans unkept
    · rintro call ⟨⟩
      exact opened.sending kept.journal target
  next answer request target stands =>
    refine kept.transmitted stands ?_
    simpa [DispatchUndisturbed, stands] using undisturbed
  next answer requestId disposition stands =>
    obtain ⟨⟨metadata, admitted, rfl, owned⟩, unobserved, transmitted, lost⟩ := kept.call _ stands
    refine kept.appending ?_ ?_ ⟨metadata, admitted.append _, rfl⟩ fun _ absent => by cases absent
    · rw [ExecutorGuidanceJournalEvent.observed_expectedKey]
      exact unobserved
    · exact fun source presents _ =>
        observed_problem kept.journal.guided presents admitted owned unobserved transmitted lost
  · exact kept.idle
  · exact ⟨kept.journal, fun _ absent => absurd absent List.not_mem_nil, fun _ absent => by cases absent⟩
  · exact kept

theorem empty_kept : GuidanceKept control replay emptyExecutorGuidanceState where
  journal :=
    { guided := ⟨canonical_nil _, fun _ absent => absurd absent List.not_mem_nil⟩
      accepted := fun before record after _ absent => by simp [emptyExecutorGuidanceState] at absent
      sentOnce := List.nodup_nil
      intendedFirst := fun _ absent => absurd absent List.not_mem_nil
      admittedFirst := fun _ recorded => by
        obtain ⟨_, absent, _⟩ := recorded
        cases absent }
  waiting := fun _ absent => absurd absent List.not_mem_nil
  call := fun _ absent => by cases absent

theorem GuidanceKept.not_accepted (kept : GuidanceKept control replay state)
    {request : ApplyExecutorGuidanceRequest}
    (stands : state.call = some (.intending request target))
    (problem : executorGuidanceDispatchProblem (replay.reader.source state.records)
      request.plannedAttempt ≠ none) :
    ¬ GuidanceAccepted replay control.runId
      (step control (.intend .acknowledged) state).2.records := by
  intro accepted
  obtain ⟨opened, _⟩ := kept.call _ stands
  let intended := ExecutorGuidanceJournalEvent.dispatchIntended request.requestId target
  have unused : Unused state.records intended.event.expectedKey := by
    rw [ExecutorGuidanceJournalEvent.dispatchIntended_expectedKey]
    exact opened.unintended
  have appended : (step control (.intend .acknowledged) state).2.records =
      state.records ++ [nextRecord control.runId state.records intended.event] := by
    unfold step
    rw [stands]
    unfold ExecutorGuidanceState.appending JournalAppendAnswer.append
    dsimp only
    rw [acceptedRecords_of_unused unused]
    rfl
  rw [appended] at accepted
  have canonical := kept.journal.guided.canonical.snoc unused
  have prior := canonical.presents_prior replay
  have kind : SameKind (replay.reader.source state.records)
      (priorRecords (nextRecord control.runId state.records intended.event).position
        (replay.source (state.records ++ [nextRecord control.runId state.records intended.event])
          state.records.length)) := by
    cases replay <;> trivial
  have follows := accepted state.records _ [] intended rfl (executorGuidanceEvent?_event intended)
  exact problem ((kept.intent_problem stands prior kind).symm.trans follows)

theorem ExecutorGuidanceState.after_concat (control : ExecutorGuidanceControl) (actions : List ExecutorGuidanceAction)
    (action : ExecutorGuidanceAction) :
    after control (actions ++ [action]) = (step control action (after control actions)).2 :=
  Machine.run_concat _ _ _

theorem step_read {request : ApplyExecutorGuidanceRequest}
    (stands : state.call = some (.applying request)) :
    step control .read state = ((control.afterReading request state.records).1,
      { state with call := (control.afterReading request state.records).2 }) := by
  unfold step
  rw [stands]

variable {metadata : ExecutorGuidanceMetadata}

theorem GuidedRecords.metadata_unique {runId : RunId} {records : List JournalRecord}
    (guided : GuidedRecords runId records) {other : ExecutorGuidanceMetadata}
    (admitted : Recorded records (.admitted metadata)) (also : Recorded records (.admitted other))
    (same : metadata.requestId = other.requestId) : metadata = other := by
  have presents : Presents (.raw records) records := .raw records
  have first := (guided.admittedMetadata?_eq_some presents).mpr ⟨admitted, same⟩
  have second := (guided.admittedMetadata?_eq_some presents).mpr ⟨also, rfl⟩
  exact Option.some.inj (first.symm.trans second)

theorem GuidedRecords.not_admitted_of_unused {runId : RunId} {records : List JournalRecord}
    (guided : GuidedRecords runId records) {requestId : ExecutorGuidanceRequestId}
    (same : metadata.requestId = requestId)
    (unused : Unused records (executorGuidanceAdmittedRecordKey requestId)) :
    ¬ Recorded records (.admitted metadata) := by
  rw [← same, ← ExecutorGuidanceJournalEvent.admitted_expectedKey] at unused
  exact guided.not_recorded_of_unused unused

theorem GuidanceKept.contradicted (kept : GuidanceKept control replay state)
    {request : ApplyExecutorGuidanceRequest} (stands : state.call = some (.applying request))
    (admitted : Recorded state.records (.admitted metadata))
    (same : metadata.requestId = request.requestId) (differs : metadata ≠ control.metadata request)
    :
    step control .read state =
      (some (.identityContradiction request.requestId), { state with call := none }) := by
  have guided := kept.journal.guided
  have presents := control.accepted.presents state.records guided.canonical.chronological
  have redelivered := guided.redelivered presents (control.metadata request)
  rw [step_read stands]
  unfold ExecutorGuidanceControl.afterReading
  dsimp only
  generalize executorGuidanceRedelivery (control.accepted.source state.records)
    (control.metadata request) = redelivery at redelivered
  have other : ∀ known, Recorded state.records (.admitted known) →
      known.requestId = request.requestId → known ≠ control.metadata request := by
    rintro known also request equal
    exact differs ((guided.metadata_unique admitted also (same.trans request.symm)).trans equal)
  cases redelivered with
  | contradiction => rfl
  | new unadmitted => exact absurd admitted (guided.not_admitted_of_unused same unadmitted)
  | retained also => exact absurd rfl (other _ also rfl)
  | lost also => exact absurd rfl (other _ also rfl)
  | unknown also => exact absurd rfl (other _ also rfl)

theorem GuidanceKept.retained (kept : GuidanceKept control replay state)
    {request : ApplyExecutorGuidanceRequest} (stands : state.call = some (.applying request))
    (admitted : Recorded state.records (.admitted (control.metadata request)))
    {disposition : ExecutorGuidanceTransmission}
    (observed : Recorded state.records (.observed request.requestId disposition)) :
    step control .read state =
      (some (.disposition request.requestId disposition), { state with call := none }) := by
  have guided := kept.journal.guided
  have presents := control.accepted.presents state.records guided.canonical.chronological
  have found := (guided.admittedMetadata?_eq_some presents).mpr ⟨admitted, rfl⟩
  have disposed := (guided.observedDisposition?_eq_some presents).mpr observed
  have redelivered := guided.redelivered presents (control.metadata request)
  rw [step_read stands]
  unfold ExecutorGuidanceControl.afterReading
  dsimp only
  generalize executorGuidanceRedelivery (control.accepted.source state.records)
    (control.metadata request) = redelivery at redelivered
  have unobserved : ¬ Unused state.records (executorGuidanceObservedRecordKey request.requestId) := by
    intro unused
    rw [← ExecutorGuidanceJournalEvent.observed_expectedKey _ disposition] at unused
    exact guided.not_recorded_of_unused unused observed
  cases redelivered with
  | new unadmitted => exact absurd admitted (guided.not_admitted_of_unused rfl unadmitted)
  | contradiction also same differs =>
      exact absurd (guided.metadata_unique also admitted same) differs
  | retained _ also =>
      have same := (guided.observedDisposition?_eq_some presents).mpr also
      obtain rfl := Option.some.inj (disposed.symm.trans same)
      rfl
  | lost _ unused => exact absurd unused unobserved
  | unknown _ unused => exact absurd unused unobserved

theorem GuidanceKept.contradicted_send (kept : GuidanceKept control replay state)
    {request : SendExecutorGuidanceRequest} (admitted : Recorded state.records (.admitted metadata))
    (same : metadata.requestId = request.requestId)
    (differs : metadata.plannedAttempt.attemptId ≠ request.attemptId) :
    step control (.send request) state = (some (.identityContradiction request.requestId), state) := by
  have guided := kept.journal.guided
  have presents := control.accepted.presents state.records guided.canonical.chronological
  have found := (guided.admittedMetadata?_eq_some presents).mpr ⟨admitted, same⟩
  have refused : control.planOf request state.records =
      .error (.identityContradiction request.requestId) := by
    unfold ExecutorGuidanceControl.planOf
    dsimp only
    rw [found, if_pos (by simpa using differs)]
  unfold step
  dsimp only
  rw [refused]

/-- In a run that no writer disturbs, a request is sent at most once and behind its intent, repeated
requests are answered from what is recorded, reused identities fail, and every event of the control
follows the records before it. -/
theorem executorGuidance_kept (control : ExecutorGuidanceControl) (replay : HistoryReplay)
    (actions : List ExecutorGuidanceAction)
    (undisturbed : Machine.Meets (step control) (DispatchUndisturbed replay) emptyExecutorGuidanceState
      actions) :
    let state := after control actions
    (state.sends.map Prod.fst).Nodup ∧
      (∀ sent ∈ state.sends, ∃ target,
        Recorded (state.records.take sent.2) (.dispatchIntended sent.1 target)) ∧
      (∀ request metadata, state.call = some (.applying request) →
        Recorded state.records (.admitted metadata) → metadata.requestId = request.requestId →
          (metadata ≠ control.metadata request → step control .read state =
            (some (.identityContradiction request.requestId), { state with call := none })) ∧
          (metadata = control.metadata request → ∀ disposition,
            Recorded state.records (.observed request.requestId disposition) →
              step control .read state =
                (some (.disposition request.requestId disposition), { state with call := none }))) ∧
      (∀ (request : SendExecutorGuidanceRequest) metadata,
        Recorded state.records (.admitted metadata) → metadata.requestId = request.requestId →
          metadata.plannedAttempt.attemptId ≠ request.attemptId →
            step control (.send request) state =
              (some (.identityContradiction request.requestId), state)) ∧
      (∀ request : ApplyExecutorGuidanceRequest, request.plannedAttempt.runId ≠ control.runId →
        step control (.apply request) state =
          (some (.disposition request.requestId (.refused .targetChanged)), state)) ∧
      GuidanceAccepted replay control.runId state.records := by
  have kept : GuidanceKept control replay (after control actions) :=
    Machine.run_preserves_of_meets step_kept empty_kept undisturbed
  refine ⟨kept.journal.sentOnce, kept.journal.intendedFirst, ?_, ?_, ?_, kept.journal.accepted⟩
  · intro request metadata stands admitted same
    refine ⟨kept.contradicted stands admitted same, ?_⟩
    rintro rfl disposition observed
    exact kept.retained stands admitted observed
  · exact fun request metadata admitted same differs => kept.contradicted_send admitted same differs
  · exact fun request foreign => if_pos foreign

end

/-! ## A disturbed run -/

section

open ExecutorGuidanceState EstablishedRun

namespace GuidedRun

def control : ExecutorGuidanceControl :=
  ⟨runId, fun _ => "digest", .raw⟩

def request : ApplyExecutorGuidanceRequest :=
  ⟨⟨"guidance"⟩, attempt, "text"⟩

def selected : ExecutorGuidanceTarget :=
  ⟨attempt, "session", "turn"⟩

def workingEvents : List WorkflowJournalEvent :=
  [.taskAttemptPlanned ⟨⟨"plan"⟩, attempt, []⟩, reported 1 executing]

def selectActions : List ExecutorGuidanceAction :=
  workingEvents.map .accept ++ [.apply request, .enter 0, .read, .acceptRequest .acknowledged,
    .select (some (.selected selected))]

def suspendedActions : List ExecutorGuidanceAction :=
  selectActions ++ [.reread, .accept (reported 2 suspended)]

def sentActions : List ExecutorGuidanceAction :=
  selectActions ++ [.reread, .intend .acknowledged, .transmit (some .accepted),
    .observe .acknowledged]

theorem selected_call :
    (after control selectActions).call = some (.rereading request selected) := by
  decide +kernel

theorem selected_problem : executorGuidanceDispatchProblem
    (.raw (after control selectActions).records) attempt = none :=
  executorGuidanceDispatchProblem_eq_none (.raw _) (by decide +kernel) (by decide +kernel)
    (by decide +kernel)

def rereadState : ExecutorGuidanceState :=
  { after control selectActions with call := some (.intending request selected) }

theorem step_reread :
    step control .reread (after control selectActions) = (none, rereadState) := by
  have clear : executorGuidanceDispatchProblem
      (control.accepted.source (after control selectActions).records) request.plannedAttempt =
        none :=
    selected_problem
  unfold step
  rw [selected_call]
  simp [ExecutorGuidanceControl.afterRereading, clear, rereadState]

theorem run_reread (actions : List ExecutorGuidanceAction) :
    after control (selectActions ++ .reread :: actions) =
      (Machine.run (step control) rereadState actions).2 := by
  have reread := step_reread
  unfold after at reread ⊢
  rw [Machine.run_append, Machine.run_cons, reread]

theorem sentActions_undisturbed :
    Machine.Meets (step control) (DispatchUndisturbed .raw) emptyExecutorGuidanceState sentActions := by
  have before : Machine.Meets (step control) (DispatchUndisturbed .raw) emptyExecutorGuidanceState
      selectActions := by
    decide +kernel
  have behind : Machine.Meets (step control) (DispatchUndisturbed .raw)
      (step control (.intend .acknowledged) rereadState).2
      [.transmit (some .accepted), .observe .acknowledged] := by
    decide +kernel
  rw [sentActions, Machine.meets_append]
  refine ⟨before, trivial, ?_⟩
  have reread := step_reread
  unfold after at reread
  rw [reread]
  exact ⟨selected_problem, behind⟩

theorem suspendedActions_undisturbed :
    Machine.Meets (step control) (DispatchUndisturbed .raw) emptyExecutorGuidanceState
      suspendedActions := by
  rw [suspendedActions, Machine.meets_append]
  exact ⟨by decide +kernel, trivial, trivial, trivial⟩

theorem suspended_problem : executorGuidanceDispatchProblem
    (HistoryReplay.raw.reader.source (after control suspendedActions).records)
      request.plannedAttempt ≠ none := by
  have plain : (latestAcceptedPlannedAttemptExecutorEvidence
      (.raw (after control suspendedActions).records) attempt none).any
        (·.report.isExecuting) = false := by
    rw [suspendedActions, run_reread]
    decide +kernel
  have stopped : (latestAcceptedPlannedAttemptExecutorEvidence
      (HistoryReplay.raw.reader.source (after control suspendedActions).records)
      request.plannedAttempt none).any (·.report.isExecuting) = false :=
    plain
  unfold executorGuidanceDispatchProblem
  rw [stopped]
  split
  · exact Option.some_ne_none _
  · exact Option.some_ne_none _

end GuidedRun

open GuidedRun

/-- The intent behind the suspension is one that its check refuses. -/
theorem executorGuidance_disturbed :
    ¬ GuidanceAccepted .raw GuidedRun.control.runId
      (ExecutorGuidanceState.after GuidedRun.control
        (GuidedRun.suspendedActions ++ [.intend .acknowledged])).records := by
  have kept : GuidanceKept control .raw (after control suspendedActions) :=
    Machine.run_preserves_of_meets step_kept empty_kept suspendedActions_undisturbed
  have stands : (after control suspendedActions).call = some (.intending request selected) := by
    rw [suspendedActions, run_reread]
    decide +kernel
  rw [after_concat]
  exact kept.not_accepted stands suspended_problem

/-- An undisturbed run sends the request once. -/
theorem executorGuidance_kept_sent :
    ((ExecutorGuidanceState.after GuidedRun.control GuidedRun.sentActions).sends.map
        Prod.fst).Nodup ∧
      (ExecutorGuidanceState.after GuidedRun.control GuidedRun.sentActions).sends =
        [(⟨"guidance"⟩, 4)] := by
  refine ⟨(executorGuidance_kept GuidedRun.control .raw GuidedRun.sentActions
    GuidedRun.sentActions_undisturbed).1, ?_⟩
  unfold GuidedRun.sentActions
  rw [GuidedRun.run_reread]
  decide +kernel

end

end Dalph
