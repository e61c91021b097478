import Dalph.Foundation.Log
import Dalph.Foundation.Machine
import Dalph.Workflow.DirectPublication.Control

/-!
# Direct publication: controls apply once

Any number of callers evaluate their requests on snapshots of the accepted prefix, while other
owners append.  A caller appends only if the prefix has not moved since its snapshot, and evaluates
again if it has.  So every grant and receipt was admissible on the very prefix it extends, and what
an evaluation refuses to repeat is never recorded twice.
-/

namespace Dalph

inductive PublicationControlRequest where
  | batchGrant (request : RemotePublicationBatchGrantRequest)
  | resume (request : RemotePublicationResumeRequest)
deriving DecidableEq

namespace PublicationControlRequest

def SameIdentity : PublicationControlRequest → PublicationControlRequest → Prop
  | batchGrant left, batchGrant right => left.requestId = right.requestId
  | resume left, resume right => left.requestId = right.requestId
  | _, _ => False

end PublicationControlRequest

def PublicationControlEvent.request : PublicationControlEvent → PublicationControlRequest
  | batchGrantApplied request => .batchGrant request
  | resumeRequested _ request => .resume request

def PublicationRunEvent.control? : PublicationRunEvent → Option PublicationControlEvent
  | batchGrantApplied request => some (.batchGrantApplied request)
  | publication (.resumeRequested correlation request) => some (.resumeRequested correlation request)
  | _ => none

def evaluatePublicationControl (projections : RunProjections) (expectedRunId : RunId)
    (journal : PublicationRunJournal) : PublicationControlRequest → PublicationControlDecision
  | .batchGrant request => evaluateBatchGrant projections expectedRunId journal request
  | .resume request => evaluateResume projections expectedRunId journal request

/-- One caller, at the top of its loop, before its conditional append, or done. -/
inductive PublicationControlCall where
  | evaluating (request : PublicationControlRequest)
  | appending (request : PublicationControlRequest) (expectedPosition : JournalPosition)
      (key : JournalRecordKey) (event : PublicationControlEvent)
  | answered (answer : PublicationControlAnswer)
deriving DecidableEq

namespace PublicationControlCall

end PublicationControlCall

/-- The Run's journal and the callers of the controls. -/
structure PublicationControlState where
  journal : PublicationRunJournal
  calls : List PublicationControlCall

/-- An append by another owner; grants and receipts come from the controls only. -/
structure OtherPublicationAppend where
  key : JournalRecordKey
  event : PublicationRunEvent
  uncontrolled : event.control? = none

/-- Steps of the callers and of the other owners, in any order. -/
inductive PublicationControlAction where
  | call (request : PublicationControlRequest)
  | evaluate (call : Nat)
  | append (call : Nat)
  | otherAppend (append : OtherPublicationAppend)

/-- The journal's append: an equal record under the key is a replay, another one contradicts it. -/
def appendPublicationRecord (journal : PublicationRunJournal) (key : JournalRecordKey)
    (event : PublicationRunEvent) : Option (JournalPosition × PublicationRunJournal) :=
  match journal.find? fun record => record.key = key with
  | none => some (journal.length + 1, journal ++ [⟨journal.length + 1, key, event⟩])
  | some existing => if existing.event = event then some (existing.position, journal) else none

def callAfterEvaluation (journal : PublicationRunJournal) (request : PublicationControlRequest) :
    PublicationControlDecision → PublicationControlCall
  | .answer answer => .answered answer
  | .append key event => .appending request journal.length key event

def PublicationRunJournal.appendIfAcceptedPrefixCurrent (journal : PublicationRunJournal)
    (request : PublicationControlRequest) (expectedPosition : JournalPosition)
    (key : JournalRecordKey) (event : PublicationControlEvent) :
    PublicationControlCall × PublicationRunJournal :=
  if expectedPosition ≠ journal.length then (.evaluating request, journal)
  else
    match appendPublicationRecord journal key event.runEvent with
    | none => (.answered .recordContradiction, journal)
    | some (position, next) => (.answered (event.newlyRecorded position), next)

section

variable (projections : RunProjections) (expectedRunId : RunId)

/-- One step of one caller or of another owner. -/
def publicationControlStep (action : PublicationControlAction) (state : PublicationControlState) :
    Unit × PublicationControlState :=
  match action with
  | .call request => ((), { state with calls := state.calls ++ [.evaluating request] })
  | .evaluate call =>
      match state.calls[call]? with
      | some (.evaluating request) =>
          let decision :=
            evaluatePublicationControl projections expectedRunId state.journal request
          ((), { state with
            calls := state.calls.set call (callAfterEvaluation state.journal request decision) })
      | _ => ((), state)
  | .append call =>
      match state.calls[call]? with
      | some (.appending request expectedPosition key event) =>
          let (next, journal) :=
            state.journal.appendIfAcceptedPrefixCurrent request expectedPosition key event
          ((), { journal, calls := state.calls.set call next })
      | _ => ((), state)
  | .otherAppend append =>
      match appendPublicationRecord state.journal append.key append.event with
      | some (_, journal) => ((), { state with journal })
      | none => ((), state)

def freshPublicationRun (key : JournalRecordKey) (remotePublicationTarget : RemotePublicationTarget) :
    PublicationControlState :=
  ⟨[⟨1, key, .workflowRunBegan remotePublicationTarget⟩], []⟩

/-- The grant or receipt that a record is was what its control decided on the records before it. -/
def PublicationRecordValid (before : PublicationRunJournal) (record : PublicationRunRecord) : Prop :=
  ∀ event, record.event.control? = some event →
    evaluatePublicationControl projections expectedRunId before event.request =
      .append record.key event

/-- A waiting caller gets an answer without a record: at its evaluation, which its conditional append
goes back to. -/
structure AnsweredWithoutRecord (state : PublicationControlState) (call : Nat)
    (request : PublicationControlRequest) (Answered : PublicationControlAnswer → Prop) : Prop where
  evaluates : state.calls[call]? = some (.evaluating request) →
    (publicationControlStep projections expectedRunId (.evaluate call) state).2.journal =
        state.journal ∧
      ∃ answer, Answered answer ∧
        (publicationControlStep projections expectedRunId (.evaluate call) state).2.calls[call]? =
          some (.answered answer)
  retries : ∀ expectedPosition key event,
    state.calls[call]? = some (.appending request expectedPosition key event) →
      (publicationControlStep projections expectedRunId (.append call) state).2.journal =
          state.journal ∧
        (publicationControlStep projections expectedRunId (.append call) state).2.calls[call]? =
          some (.evaluating request)

structure PublicationControlsAppliedOnce (state : PublicationControlState) : Prop where
  grantPerExhaustion : state.journal.Pairwise fun earlier later => ∀ first second,
    earlier.event = .batchGrantApplied first → later.event = .batchGrantApplied second →
      first.exhaustionAt ≠ second.exhaustionAt
  recordPerRequest : state.journal.Pairwise fun earlier later => ∀ first second,
    earlier.event.control? = some first → later.event.control? = some second →
      ¬ first.request.SameIdentity second.request
  repeated : ∀ record ∈ state.journal, ∀ event, record.event.control? = some event →
    ∀ call, AnsweredWithoutRecord projections expectedRunId state call event.request
      (· = event.replay record.position)
  reused : ∀ record ∈ state.journal, ∀ event, record.event.control? = some event →
    ∀ call request, event.request.SameIdentity request → event.request ≠ request →
      AnsweredWithoutRecord projections expectedRunId state call request (·.isFailure)
  valid : Log.Justified (PublicationRecordValid projections expectedRunId) state.journal

end

namespace PublicationRunJournal

variable {Fact : Type} {journal : PublicationRunJournal} {read : PublicationRunEvent → Option Fact}
  {accept : Fact → Bool}

variable {record : PublicationRunRecord}

theorem firstWhere_eq_none (absent : journal.firstWhere read accept = none)
    (member : record ∈ journal) {fact : Fact} (found : read record.event = some fact) :
    accept fact = false := by
  unfold firstWhere at absent
  rw [List.findSome?_eq_none_iff] at absent
  have refused := absent record member
  rw [found] at refused
  simpa using refused

theorem firstWhere_eq_some {position : JournalPosition} {fact : Fact}
    (found : journal.firstWhere read accept = some (position, fact)) :
    ∃ record ∈ journal, record.position = position ∧ read record.event = some fact ∧
      accept fact = true := by
  unfold firstWhere at found
  obtain ⟨record, member, picked⟩ := List.exists_of_findSome?_eq_some found
  obtain ⟨other, same, chosen⟩ := Option.bind_eq_some_iff.mp picked
  split at chosen
  · rename_i accepted
    simp only [Option.some.injEq, Prod.mk.injEq] at chosen
    obtain ⟨rfl, rfl⟩ := chosen
    exact ⟨record, member, rfl, same, accepted⟩
  · cases chosen

variable (read accept) in
theorem firstWhere_present (member : record ∈ journal) {fact : Fact}
    (read_ : read record.event = some fact) (accepted : accept fact = true) :
    ∃ holder ∈ journal, ∃ other, journal.firstWhere read accept = some (holder.position, other) ∧
      read holder.event = some other ∧ accept other = true := by
  cases found : journal.firstWhere read accept with
  | none => exact absurd accepted (by simp [firstWhere_eq_none found member read_])
  | some first =>
      obtain ⟨holder, holds, position, kind, accepted⟩ := firstWhere_eq_some found
      exact ⟨holder, holds, first.2, by rw [position], kind, accepted⟩

theorem byPosition_of_isPrefix {before : PublicationRunJournal} (extended : before <+: journal)
    {position : JournalPosition} (found : before.byPosition position = some record) :
    journal.byPosition position = some record := by
  obtain ⟨after, rfl⟩ := extended
  unfold byPosition at found ⊢
  rw [List.find?_append, found]
  rfl

end PublicationRunJournal

section

variable {projections : RunProjections} {expectedRunId : RunId} {journal : PublicationRunJournal}

variable {key : JournalRecordKey} {event : PublicationControlEvent}

theorem evaluateBatchGrant_append {request : RemotePublicationBatchGrantRequest}
    (decided : evaluateBatchGrant projections expectedRunId journal request = .append key event) :
    (request.runId = expectedRunId ∧ request.responsibility.runId = expectedRunId) ∧
      previousGrant journal request = none ∧
      publicationExhaustionIsCurrent projections journal expectedRunId request = .ok true ∧
      event = .batchGrantApplied request := by
  unfold evaluateBatchGrant at decided
  split at decided
  · cases decided
  · rename_i ofRun
    rw [not_or, not_not, not_not] at ofRun
    split at decided
    · cases decided
    · rename_i unrecorded
      split at decided
      · cases decided
      · split at decided
        · cases decided
        · cases decided
        · rename_i current
          simp only [PublicationControlDecision.append.injEq] at decided
          exact ⟨ofRun, unrecorded, current, decided.2.symm⟩

theorem evaluateResume_append {request : RemotePublicationResumeRequest}
    (decided : evaluateResume projections expectedRunId journal request = .append key event) :
    (request.runId = expectedRunId ∧ request.responsibility.runId = expectedRunId) ∧
      previousResumeAdmission journal request = none ∧
      ∃ correlation, event = .resumeRequested correlation request := by
  unfold evaluateResume at decided
  split at decided
  · cases decided
  · rename_i ofRun
    rw [not_or, not_not, not_not] at ofRun
    split at decided
    · cases decided
    · cases decided
    · rename_i unrecorded _
      split at decided
      · cases decided
      · cases decided
      · unfold resumePreparedCandidate at decided
        split at decided
        · cases decided
        · split at decided
          · simp only [PublicationControlDecision.append.injEq] at decided
            exact ⟨ofRun, unrecorded, _, decided.2.symm⟩
          · cases decided

theorem request_of_append {request : PublicationControlRequest}
    (decided : evaluatePublicationControl projections expectedRunId journal request =
      .append key event) : event.request = request := by
  cases request with
  | batchGrant request =>
      obtain ⟨-, -, -, rfl⟩ := evaluateBatchGrant_append decided
      rfl
  | resume request =>
      obtain ⟨-, -, correlation, rfl⟩ := evaluateResume_append decided
      rfl

@[simp]
theorem control?_runEvent (event : PublicationControlEvent) :
    event.runEvent.control? = some event := by
  cases event <;> rfl

theorem eq_runEvent_of_control? {recorded : PublicationRunEvent}
    (control : recorded.control? = some event) : recorded = event.runEvent := by
  cases event <;> cases recorded with
  | publication transition => cases transition <;> simp_all [PublicationRunEvent.control?,
      PublicationControlEvent.runEvent]
  | _ => simp_all [PublicationRunEvent.control?, PublicationControlEvent.runEvent]

theorem not_sameIdentity_of_append {request : PublicationControlRequest}
    (decided : evaluatePublicationControl projections expectedRunId journal request =
      .append key event) {record : PublicationRunRecord} (member : record ∈ journal)
    {recorded : PublicationControlEvent} (control : record.event.control? = some recorded) :
    ¬ recorded.request.SameIdentity request := by
  have kept := eq_runEvent_of_control? control
  cases request with
  | batchGrant request =>
      obtain ⟨-, unrecorded, -, -⟩ := evaluateBatchGrant_append decided
      cases recorded with
      | resumeRequested correlation other => exact id
      | batchGrantApplied other =>
          unfold previousGrant at unrecorded
          split at unrecorded
          · split at unrecorded <;> cases unrecorded
          · rename_i absent
            have different := PublicationRunJournal.firstWhere_eq_none absent member
              (show (·.grant?) record.event = some other by rw [kept]; rfl)
            simpa [PublicationControlEvent.request, PublicationControlRequest.SameIdentity]
              using different
  | resume request =>
      obtain ⟨-, unrecorded, -⟩ := evaluateResume_append decided
      cases recorded with
      | batchGrantApplied other => exact id
      | resumeRequested correlation other =>
          unfold previousResumeAdmission at unrecorded
          rw [Option.map_eq_none_iff] at unrecorded
          have different := PublicationRunJournal.firstWhere_eq_none unrecorded member
            (show (·.receipt?) record.event = some (correlation, other) by rw [kept]; rfl)
          simpa [PublicationControlEvent.request, PublicationControlRequest.SameIdentity]
            using different

theorem queuedAt_of_exhaustionIsCurrent {request : RemotePublicationBatchGrantRequest}
    (current : publicationExhaustionIsCurrent projections journal expectedRunId request = .ok true) :
    ∃ record, journal.byPosition request.exhaustionAt = some record ∧
      ∃ retained, record.event.retained? = some retained ∧
        retained.2.2.qualifiedCandidate.run.session.queuedAt = request.responsibility.queuedAt := by
  unfold publicationExhaustionIsCurrent at current
  split at current
  · rename_i occurrence _
    unfold exhaustionOccurrence at occurrence
    obtain ⟨record, found, occurrence⟩ := Option.bind_eq_some_iff.mp occurrence
    obtain ⟨⟨batchGrantAt, cause, correlation⟩, kind, occurrence⟩ :=
      Option.bind_eq_some_iff.mp occurrence
    dsimp only at occurrence
    split at occurrence
    · rename_i ofRequest
      exact ⟨record, found, _, kind, ofRequest.2⟩
    · cases occurrence
  · cases current

end

section

variable {projections : RunProjections} {expectedRunId : RunId} {journal : PublicationRunJournal}

def SameRequestRecorded (left right : PublicationRunRecord) : Prop :=
  ∃ first second, left.event.control? = some first ∧ right.event.control? = some second ∧
    first.request.SameIdentity second.request

theorem SameRequestRecorded.symm {left right : PublicationRunRecord}
    (same : SameRequestRecorded left right) : SameRequestRecorded right left := by
  obtain ⟨first, second, ofLeft, ofRight, same⟩ := same
  refine ⟨second, first, ofRight, ofLeft, ?_⟩
  cases first <;> cases second <;>
    simp_all [PublicationControlEvent.request, PublicationControlRequest.SameIdentity]

variable {before : PublicationRunJournal} {record : PublicationRunRecord}

theorem not_sameRequestRecorded
    (admissible : PublicationRecordValid projections expectedRunId before record)
    {earlier : PublicationRunRecord} (member : earlier ∈ before) :
    ¬ SameRequestRecorded earlier record := by
  rintro ⟨first, second, ofEarlier, ofLater, same⟩
  exact not_sameIdentity_of_append (admissible second ofLater) member ofEarlier same

theorem grant_of_valid {request : RemotePublicationBatchGrantRequest}
    (admissible : PublicationRecordValid projections expectedRunId before record)
    (grant : record.event = .batchGrantApplied request) :
    (request.runId = expectedRunId ∧ request.responsibility.runId = expectedRunId) ∧
      previousGrant before request = none ∧
      ∃ occurrence, before.byPosition request.exhaustionAt = some occurrence ∧
        ∃ retained, occurrence.event.retained? = some retained ∧
          retained.2.2.qualifiedCandidate.run.session.queuedAt =
            request.responsibility.queuedAt := by
  have decided := admissible (.batchGrantApplied request) (by rw [grant]; rfl)
  obtain ⟨ofRun, unrecorded, current, -⟩ := evaluateBatchGrant_append decided
  exact ⟨ofRun, unrecorded, queuedAt_of_exhaustionIsCurrent current⟩

def SameExhaustionGranted (left right : PublicationRunRecord) : Prop :=
  ∃ first second, left.event = .batchGrantApplied first ∧ right.event = .batchGrantApplied second ∧
    first.exhaustionAt = second.exhaustionAt

theorem grants_apart
    (justified : Log.Justified (PublicationRecordValid projections expectedRunId) before)
    (admissible : PublicationRecordValid projections expectedRunId before record)
    {earlier : PublicationRunRecord} (member : earlier ∈ before) :
    ¬ SameExhaustionGranted earlier record := by
  rintro ⟨first, second, ofEarlier, ofLater, same⟩
  obtain ⟨prior, isPrefix, earlierAdmissible⟩ := justified.admissible_of_mem member
  obtain ⟨firstRun, -, firstOccurrence, firstFound, firstRetained, firstKind, firstQueued⟩ :=
    grant_of_valid earlierAdmissible ofEarlier
  obtain ⟨secondRun, unrecorded, secondOccurrence, secondFound, secondRetained, secondKind,
    secondQueued⟩ := grant_of_valid admissible ofLater
  -- The occurrence is one record, so both grants are for the responsibility it belongs to.
  have sameOccurrence : firstOccurrence = secondOccurrence := by
    have found := PublicationRunJournal.byPosition_of_isPrefix isPrefix firstFound
    rw [same, secondFound] at found
    exact (Option.some.inj found).symm
  subst sameOccurrence
  have sameRetained : firstRetained = secondRetained :=
    Option.some.inj (firstKind.symm.trans secondKind)
  subst sameRetained
  unfold previousGrant at unrecorded
  split at unrecorded
  · split at unrecorded <;> cases unrecorded
  · rw [Option.map_eq_none_iff] at unrecorded
    have different := PublicationRunJournal.firstWhere_eq_none unrecorded member
      (show (·.grant?) earlier.event = some first by rw [ofEarlier]; rfl)
    simp [sameGrantSubject, firstRun, secondRun, same, ← firstQueued, ← secondQueued] at different

variable (valid : Log.Justified (PublicationRecordValid projections expectedRunId) journal)
include valid

theorem grantPerExhaustion_of_valid :
    journal.Pairwise fun earlier later => ∀ first second,
      earlier.event = .batchGrantApplied first → later.event = .batchGrantApplied second →
        first.exhaustionAt ≠ second.exhaustionAt := by
  refine (valid.pairwise (fun before record justified admissible earlier member =>
    grants_apart justified admissible member)).imp ?_
  intro earlier later apart first second ofEarlier ofLater same
  exact apart ⟨first, second, ofEarlier, ofLater, same⟩

theorem record_unique {left right : PublicationRunRecord} (leftMember : left ∈ journal)
    (rightMember : right ∈ journal) (same : SameRequestRecorded left right) : left = right :=
  valid.eq_of_clash (fun _ _ _ admissible _ member => not_sameRequestRecorded admissible member)
    SameRequestRecorded.symm leftMember rightMember same

theorem firstGrant_of_recorded (member : record ∈ journal)
    {recorded : RemotePublicationBatchGrantRequest}
    (grant : record.event = .batchGrantApplied recorded)
    {requestId : RemotePublicationBatchGrantRequestId} (same : recorded.requestId = requestId) :
    journal.firstWhere (·.grant?) (·.requestId = requestId) = some (record.position, recorded) := by
  obtain ⟨holder, holds, other, found, kind, accepted⟩ := PublicationRunJournal.firstWhere_present
    (·.grant?) (·.requestId = requestId) member
    (show PublicationRunEvent.grant? record.event = some recorded by rw [grant]; rfl)
    (decide_eq_true same)
  have holderGrant : holder.event = .batchGrantApplied other := by
    cases event : holder.event <;> simp_all [PublicationRunEvent.grant?]
  have unique : holder = record := by
    refine record_unique valid holds member ⟨.batchGrantApplied other, .batchGrantApplied recorded,
      by rw [holderGrant]; rfl, by rw [grant]; rfl, ?_⟩
    exact (of_decide_eq_true accepted).trans same.symm
  subst unique
  rw [grant] at holderGrant
  cases holderGrant
  exact found

theorem firstReceipt_of_recorded (member : record ∈ journal)
    {correlation : RemotePublicationCorrelation} {recorded : RemotePublicationResumeRequest}
    (receipt : record.event = .publication (.resumeRequested correlation recorded))
    {requestId : RemotePublicationResumeRequestId} (same : recorded.requestId = requestId) :
    journal.firstWhere (·.receipt?) (·.2.requestId = requestId) =
      some (record.position, correlation, recorded) := by
  obtain ⟨holder, holds, ⟨otherCorrelation, other⟩, found, kind, accepted⟩ :=
    PublicationRunJournal.firstWhere_present (·.receipt?) (·.2.requestId = requestId) member
      (show PublicationRunEvent.receipt? record.event = some (correlation, recorded) by
        rw [receipt]; rfl)
      (decide_eq_true same)
  have holderReceipt :
      holder.event = .publication (.resumeRequested otherCorrelation other) := by
    cases event : holder.event with
    | publication transition =>
        cases transition <;> simp_all [PublicationRunEvent.receipt?]
    | _ => simp_all [PublicationRunEvent.receipt?]
  have unique : holder = record := by
    refine record_unique valid holds member ⟨.resumeRequested otherCorrelation other,
      .resumeRequested correlation recorded, by rw [holderReceipt]; rfl, by rw [receipt]; rfl, ?_⟩
    exact (of_decide_eq_true accepted).trans same.symm
  subst unique
  rw [receipt] at holderReceipt
  cases holderReceipt
  exact found

/-- A request whose id is recorded is answered: a repeated one with the record's receipt, one with
other content with a failure. -/
theorem evaluate_recorded (member : record ∈ journal) {event : PublicationControlEvent}
    (control : record.event.control? = some event) {request : PublicationControlRequest}
    (same : event.request.SameIdentity request) :
    ∃ answer, evaluatePublicationControl projections expectedRunId journal request = .answer answer ∧
      (event.request = request → answer = event.replay record.position) ∧
      (event.request ≠ request → answer.isFailure) := by
  obtain ⟨before, -, admissible⟩ := valid.admissible_of_mem member
  have decided := admissible event control
  have kept := eq_runEvent_of_control? control
  cases request with
  | batchGrant request =>
      cases event with
      | resumeRequested correlation recorded => exact same.elim
      | batchGrantApplied recorded =>
          obtain ⟨ofRun, -⟩ := evaluateBatchGrant_append decided
          have found := firstGrant_of_recorded valid member kept same
          have previous : previousGrant journal request = some
              (if recorded = request then .batchGrantReplay (grantReceipt (record.position, recorded))
              else .requestConflict) := by
            simp only [previousGrant, found, apply_ite some]
          simp only [evaluatePublicationControl, evaluateBatchGrant, previous]
          by_cases repeated : recorded = request
          · subst repeated
            exact ⟨_, by simp [ofRun]; rfl, fun _ => rfl, fun different => absurd rfl different⟩
          · rw [if_neg repeated]
            split
            · exact ⟨_, rfl, fun equal => absurd (by cases equal; rfl) repeated, fun _ => rfl⟩
            · exact ⟨_, rfl, fun equal => absurd (by cases equal; rfl) repeated, fun _ => rfl⟩
  | resume request =>
      cases event with
      | batchGrantApplied recorded => exact same.elim
      | resumeRequested correlation recorded =>
          obtain ⟨ofRun, -⟩ := evaluateResume_append decided
          have found := firstReceipt_of_recorded valid member kept same
          have previous : previousResumeAdmission journal request = some
              (if recorded = request then
                .resumeReceiptReplay record.position correlation.requestId request.requestId
              else .requestConflict) := by
            rw [previousResumeAdmission, found]
            rfl
          simp only [evaluatePublicationControl, evaluateResume, previous]
          by_cases repeated : recorded = request
          · subst repeated
            exact ⟨_, by simp [ofRun]; rfl, fun _ => rfl, fun different => absurd rfl different⟩
          · rw [if_neg repeated]
            split
            · exact ⟨_, rfl, fun equal => absurd (by cases equal; rfl) repeated, fun _ => rfl⟩
            · exact ⟨_, rfl, fun equal => absurd (by cases equal; rfl) repeated, fun _ => rfl⟩

end

/-- What holds between any two steps: every record was decided on its own prefix, and so was the
append that a caller is about to make. -/
structure PublicationControlInvariant (projections : RunProjections) (expectedRunId : RunId)
    (state : PublicationControlState) : Prop where
  valid : Log.Justified (PublicationRecordValid projections expectedRunId) state.journal
  decided : ∀ request expectedPosition key event,
    PublicationControlCall.appending request expectedPosition key event ∈ state.calls →
      expectedPosition ≤ state.journal.length ∧
        evaluatePublicationControl projections expectedRunId (state.journal.take expectedPosition)
          request = .append key event

section

variable {projections : RunProjections} {expectedRunId : RunId} {state : PublicationControlState}

variable {journal : PublicationRunJournal} {key : JournalRecordKey}

theorem appendPublicationRecord_eq_some {next : PublicationRunJournal} {event : PublicationRunEvent}
    {position : JournalPosition}
    (appended : appendPublicationRecord journal key event = some (position, next)) :
    next = journal ∨ next = journal ++ [⟨journal.length + 1, key, event⟩] := by
  unfold appendPublicationRecord at appended
  split at appended
  · cases appended
    exact .inr rfl
  · split at appended
    · cases appended
      exact .inl rfl
    · cases appended

section

variable (invariant : PublicationControlInvariant projections expectedRunId state)
include invariant

theorem PublicationControlInvariant.decided_of_extended (extended : state.journal <+: journal)
    {request : PublicationControlRequest} {expectedPosition : JournalPosition}
    {event : PublicationControlEvent}
    (member : .appending request expectedPosition key event ∈ state.calls) :
    expectedPosition ≤ journal.length ∧
      evaluatePublicationControl projections expectedRunId (journal.take expectedPosition)
        request = .append key event := by
  obtain ⟨bounded, decided⟩ := invariant.decided request expectedPosition key event member
  obtain ⟨after, rfl⟩ := extended
  rw [List.take_append_of_le_length bounded]
  exact ⟨bounded.trans (by simp), decided⟩

theorem PublicationControlInvariant.valid_append {next : PublicationRunJournal}
    {event : PublicationRunEvent} {position : JournalPosition}
    (appended : appendPublicationRecord state.journal key event = some (position, next))
    (admissible : ∀ control, event.control? = some control →
      evaluatePublicationControl projections expectedRunId state.journal control.request =
        .append key control) :
    Log.Justified (PublicationRecordValid projections expectedRunId) next ∧
      state.journal <+: next := by
  obtain rfl | rfl := appendPublicationRecord_eq_some appended
  · exact ⟨invariant.valid, List.prefix_rfl⟩
  · exact ⟨Log.justified_concat.mpr ⟨invariant.valid, admissible⟩, List.prefix_append _ _⟩

theorem PublicationControlInvariant.set_call
    (valid : Log.Justified (PublicationRecordValid projections expectedRunId) journal)
    (extended : state.journal <+: journal) (call : Nat) {next : PublicationControlCall}
    (decided : ∀ request expectedPosition key event,
      next = .appending request expectedPosition key event →
        expectedPosition ≤ journal.length ∧
          evaluatePublicationControl projections expectedRunId (journal.take expectedPosition)
            request = .append key event) :
    PublicationControlInvariant projections expectedRunId
      { journal, calls := state.calls.set call next } := by
  refine ⟨valid, fun request expectedPosition key event member => ?_⟩
  rcases List.mem_or_eq_of_mem_set member with others | own
  · exact invariant.decided_of_extended extended others
  · exact decided request expectedPosition key event own.symm

end

variable (projections expectedRunId) in
theorem invariant_freshPublicationRun (key : JournalRecordKey)
    (remotePublicationTarget : RemotePublicationTarget) :
    PublicationControlInvariant projections expectedRunId
      (freshPublicationRun key remotePublicationTarget) := by
  constructor
  · have begins : PublicationRecordValid projections expectedRunId []
        ⟨1, key, .workflowRunBegan remotePublicationTarget⟩ := by
      intro event control
      cases control
    exact Log.justified_concat.mpr ⟨Log.justified_nil, begins⟩
  · intro request expectedPosition key event member
    cases member

theorem invariant_publicationControlStep (action : PublicationControlAction)
    (state : PublicationControlState)
    (invariant : PublicationControlInvariant projections expectedRunId state) :
    PublicationControlInvariant projections expectedRunId
      (publicationControlStep projections expectedRunId action state).2 := by
  cases action with
  | call request =>
      refine ⟨invariant.valid, fun request expectedPosition key event member => ?_⟩
      simp only [publicationControlStep, List.mem_append, List.mem_singleton, reduceCtorEq,
        or_false] at member
      exact invariant.decided request expectedPosition key event member
  | evaluate call =>
      unfold publicationControlStep
      dsimp only
      split
      · refine invariant.set_call invariant.valid List.prefix_rfl call ?_
        intro request expectedPosition key event next
        unfold callAfterEvaluation at next
        split at next
        · cases next
        · rename_i decided
          cases next
          rw [List.take_length]
          exact ⟨le_rfl, decided⟩
      · exact invariant
  | append call =>
      unfold publicationControlStep
      dsimp only
      split
      · rename_i request expectedPosition key event waiting
        obtain ⟨-, decided⟩ := invariant.decided request expectedPosition key event
          (List.mem_of_getElem? waiting)
        unfold PublicationRunJournal.appendIfAcceptedPrefixCurrent
        split
        · exact invariant.set_call invariant.valid List.prefix_rfl call nofun
        · rename_i current
          rw [not_not] at current
          rw [current, List.take_length] at decided
          split
          · exact invariant.set_call invariant.valid List.prefix_rfl call nofun
          · rename_i position next appended
            obtain ⟨valid, extended⟩ := invariant.valid_append appended (by
              intro control ofEvent
              rw [control?_runEvent] at ofEvent
              cases ofEvent
              rw [request_of_append decided]
              exact decided)
            exact invariant.set_call valid extended call nofun
      · exact invariant
  | otherAppend append =>
      unfold publicationControlStep
      dsimp only
      split
      · rename_i position journal appended
        obtain ⟨valid, extended⟩ := invariant.valid_append appended (by
          intro control ofEvent
          rw [append.uncontrolled] at ofEvent
          cases ofEvent)
        exact ⟨valid, fun _ _ _ _ member => invariant.decided_of_extended extended member⟩
      · exact invariant

theorem answeredWithoutRecord_of_recorded
    (invariant : PublicationControlInvariant projections expectedRunId state)
    {record : PublicationRunRecord} (member : record ∈ state.journal)
    {event : PublicationControlEvent} (control : record.event.control? = some event)
    {request : PublicationControlRequest} (same : event.request.SameIdentity request) (call : Nat) :
    AnsweredWithoutRecord projections expectedRunId state call request fun answer =>
      (event.request = request → answer = event.replay record.position) ∧
        (event.request ≠ request → answer.isFailure) := by
  obtain ⟨answer, evaluated, answered⟩ := evaluate_recorded invariant.valid member control same
  constructor
  · intro waiting
    have present : call < state.calls.length := (List.getElem?_eq_some_iff.mp waiting).1
    simp only [publicationControlStep, waiting, evaluated, callAfterEvaluation]
    exact ⟨trivial, answer, answered, List.getElem?_set_self present⟩
  · intro expectedPosition key appended waiting
    have present : call < state.calls.length := (List.getElem?_eq_some_iff.mp waiting).1
    obtain ⟨-, decided⟩ := invariant.decided request expectedPosition key appended
      (List.mem_of_getElem? waiting)
    have moved : expectedPosition ≠ state.journal.length := by
      intro current
      rw [current, List.take_length, evaluated] at decided
      cases decided
    simp only [publicationControlStep, waiting,
      PublicationRunJournal.appendIfAcceptedPrefixCurrent, if_pos moved]
    exact ⟨trivial, List.getElem?_set_self present⟩

theorem AnsweredWithoutRecord.imp {call : Nat} {request : PublicationControlRequest}
    {Answered Weaker : PublicationControlAnswer → Prop}
    (answered : AnsweredWithoutRecord projections expectedRunId state call request Answered)
    (weaker : ∀ answer, Answered answer → Weaker answer) :
    AnsweredWithoutRecord projections expectedRunId state call request Weaker := by
  refine ⟨fun waiting => ?_, answered.retries⟩
  obtain ⟨unchanged, answer, holds, next⟩ := answered.evaluates waiting
  exact ⟨unchanged, answer, weaker answer holds, next⟩

theorem PublicationControlRequest.SameIdentity.refl (request : PublicationControlRequest) :
    request.SameIdentity request := by
  cases request <;> rfl

/-- Whatever callers and other owners do after the Run began, in any order, every grant and receipt
is applied once. -/
theorem publication_controls_apply_once (projections : RunProjections) (expectedRunId : RunId)
    (key : JournalRecordKey) (remotePublicationTarget : RemotePublicationTarget)
    (actions : List PublicationControlAction) :
    PublicationControlsAppliedOnce projections expectedRunId
      (Machine.run (publicationControlStep projections expectedRunId)
        (freshPublicationRun key remotePublicationTarget) actions).2 := by
  have invariant := Machine.run_preserves invariant_publicationControlStep
    (invariant_freshPublicationRun projections expectedRunId key remotePublicationTarget) actions
  constructor
  · exact grantPerExhaustion_of_valid invariant.valid
  · refine (invariant.valid.pairwise (fun _ _ _ admissible _ member =>
      not_sameRequestRecorded admissible member)).imp ?_
    intro earlier later apart first second ofEarlier ofLater same
    exact apart ⟨first, second, ofEarlier, ofLater, same⟩
  · intro record member event control call
    refine (answeredWithoutRecord_of_recorded invariant member control (.refl _) call).imp ?_
    intro answer answered
    exact answered.1 rfl
  · intro record member event control call request same different
    refine (answeredWithoutRecord_of_recorded invariant member control same call).imp ?_
    intro answer answered
    exact answered.2 different
  · exact invariant.valid

end

namespace ConcurrentGrants

def session : IntegratorSessionCorrelation where
  acceptedResult := ⟨⟨"accepted"⟩, ⟨0, "evidence"⟩⟩
  integrationTarget := ⟨"/target", "refs/heads/main"⟩
  plannedAttempt := ⟨⟨"attempt"⟩, ⟨"base"⟩, "refs/heads/task", "executor",
    ⟨"publication-run", by decide⟩, ⟨"task"⟩, ⟨"revision"⟩, "/task"⟩
  queuedAt := 2
  startedAt := 3
  candidateResource := "resource"
  expectedTargetHead := ⟨"expected"⟩
  sessionId := "session"
  targetLineageObservedAt := 4

def candidate : IntegratorRunQualifiedCandidate :=
  ⟨⟨"candidate"⟩, "candidate", (⟨"expected"⟩, ⟨"accepted"⟩), 5, ⟨1, session⟩, rfl, by decide⟩

def target : RemotePublicationTarget := ⟨"refs/heads/main", "remote"⟩

def correlation : RemotePublicationCorrelation := remotePublicationCorrelationFor candidate target

def request (requestId : String) : RemotePublicationBatchGrantRequest :=
  ⟨8, ⟨requestId⟩, ⟨2, session.plannedAttempt.runId⟩, session.plannedAttempt.runId⟩

end ConcurrentGrants

end Dalph
