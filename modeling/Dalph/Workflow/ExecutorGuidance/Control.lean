import Dalph.Foundation.Machine
import Dalph.Workflow.ExecutorGuidance.Protocol

/-!
# Control of executor guidance

One call at a time holds the control of a Run.  It admits a request, selects a target, reads the
accepted prefix once more, records the intent and transmits; other writers append between any two of
its steps, and every step may be its last.
-/

namespace Dalph

structure ApplyExecutorGuidanceRequest where
  requestId : ExecutorGuidanceRequestId
  plannedAttempt : PlannedTaskAttempt
  text : String
deriving DecidableEq

structure SendExecutorGuidanceRequest where
  requestId : ExecutorGuidanceRequestId
  attemptId : AttemptId
  text : String
deriving DecidableEq

structure PrefixReader where
  source : List JournalRecord → JournalHistorySource
  presents : ∀ records, Chronological records → Presents (source records) records

def PrefixReader.raw : PrefixReader :=
  ⟨.raw, fun records _ => .raw records⟩

def PrefixReader.indexed : PrefixReader :=
  ⟨fun records => .indexed (journalEvidenceFrom records), fun _ => presents_journalEvidenceFrom⟩

/-- Where the call that holds the control stands. -/
inductive ExecutorGuidanceCall where
  | applying (request : ApplyExecutorGuidanceRequest)
  | admitting (request : ApplyExecutorGuidanceRequest) (seen : List JournalRecord)
  | selecting (request : ApplyExecutorGuidanceRequest)
  | rereading (request : ApplyExecutorGuidanceRequest) (target : ExecutorGuidanceTarget)
  | intending (request : ApplyExecutorGuidanceRequest) (target : ExecutorGuidanceTarget)
  | sending (request : ApplyExecutorGuidanceRequest) (target : ExecutorGuidanceTarget)
  | observing (requestId : ExecutorGuidanceRequestId) (disposition : ExecutorGuidanceTransmission)
deriving DecidableEq

/-- What a caller is answered. -/
inductive ExecutorGuidanceReply where
  | disposition (requestId : ExecutorGuidanceRequestId) (disposition : ExecutorGuidanceTransmission)
  | identityContradiction (requestId : ExecutorGuidanceRequestId)
  | journalFailure (requestId : ExecutorGuidanceRequestId)
deriving DecidableEq

structure ExecutorGuidanceControl where
  runId : RunId
  /-- The digest of a text in hexadecimal digits. -/
  digest : ByteArray → String
  accepted : PrefixReader

namespace ExecutorGuidanceControl

variable (control : ExecutorGuidanceControl)

def metadata (request : ApplyExecutorGuidanceRequest) : ExecutorGuidanceMetadata :=
  let bytes := request.text.toUTF8
  { requestId := request.requestId
    plannedAttempt := request.plannedAttempt
    payloadDigest := control.digest bytes
    payloadBytes := bytes.size }

def afterReading (request : ApplyExecutorGuidanceRequest) (records : List JournalRecord) :
    Option ExecutorGuidanceReply × Option ExecutorGuidanceCall :=
  let source := control.accepted.source records
  match executorGuidanceRedelivery source (control.metadata request) with
  | .contradiction => (some (.identityContradiction request.requestId), none)
  | .retained disposition => (some (.disposition request.requestId disposition), none)
  | .observe disposition => (none, some (.observing request.requestId disposition))
  | .new =>
      if (recordedTaskAttemptPlanFor source request.plannedAttempt).isNone then
        (some (.disposition request.requestId (.refused .targetChanged)), none)
      else (none, some (.admitting request records))

/-- An admitted call refuses on what it read before the admission, or selects a target. -/
def afterAdmission (request : ApplyExecutorGuidanceRequest) (seen : List JournalRecord) :
    ExecutorGuidanceCall :=
  if request.text.toUTF8.size > executorGuidanceTextByteLimit then
    .observing request.requestId (.refused .textTooLarge)
  else if (executorGuidanceDispatchProblem (control.accepted.source seen)
      request.plannedAttempt).isSome then
    .observing request.requestId (.refused .attemptInactive)
  else .selecting request

/-- The executor selects a target; one without the capability selects nothing. -/
def afterSelection (request : ApplyExecutorGuidanceRequest) :
    Option ExecutorGuidanceSelection → ExecutorGuidanceCall
  | none => .observing request.requestId (.refused .capabilityUnavailable)
  | some (.refused reason) => .observing request.requestId (.refused reason)
  | some (.selected target) =>
      if target.plannedAttempt ≠ request.plannedAttempt then
        .observing request.requestId (.refused .targetChanged)
      else .rereading request target

def afterRereading (request : ApplyExecutorGuidanceRequest) (target : ExecutorGuidanceTarget)
    (records : List JournalRecord) : ExecutorGuidanceCall :=
  if (executorGuidanceDispatchProblem (control.accepted.source records)
      request.plannedAttempt).isSome then
    .observing request.requestId (.refused .attemptInactive)
  else .intending request target

def planOf (request : SendExecutorGuidanceRequest) (records : List JournalRecord) :
    Except ExecutorGuidanceReply ApplyExecutorGuidanceRequest :=
  let source := control.accepted.source records
  if (admittedMetadata? source request.requestId).any
      (·.plannedAttempt.attemptId ≠ request.attemptId) then
    .error (.identityContradiction request.requestId)
  else
    match (recordedTaskAttemptPlans source).find? fun plan =>
        plan.plannedAttempt.attemptId = request.attemptId with
    | none => .error (.disposition request.requestId (.refused .targetChanged))
    | some plan => .ok ⟨request.requestId, plan.plannedAttempt, request.text⟩

end ExecutorGuidanceControl

def acceptedRecords (runId : RunId) (records : List JournalRecord) (event : WorkflowJournalEvent) :
    Bool × List JournalRecord :=
  match records.find? fun record => record.key = event.expectedKey with
  | some existing => (existing.event = event, records)
  | none => (true, records ++ [⟨event, event.expectedKey, records.length + 1, runId⟩])

/-- How the journal answers an append: a refused one leaves the journal as it was, and one without
acknowledgement does not. -/
inductive JournalAppendAnswer where
  | acknowledged
  | refused
  | unacknowledged
deriving DecidableEq

/-- An append of the control, with whether the call goes on. -/
def JournalAppendAnswer.append (answer : JournalAppendAnswer) (runId : RunId)
    (records : List JournalRecord) (guidance : ExecutorGuidanceJournalEvent) :
    Bool × List JournalRecord :=
  match answer with
  | .acknowledged => acceptedRecords runId records guidance.event
  | .refused => (false, records)
  | .unacknowledged => (false, (acceptedRecords runId records guidance.event).2)

def isExecutorGuidance : WorkflowJournalEvent → Bool
  | .protocol event =>
      event.kind = .executorGuidanceAdmitted || event.kind = .executorGuidanceDispatchIntended ||
        event.kind = .executorGuidanceObserved
  | _ => false

/-- The journal, the calls of one process and the transmissions so far, each with the number of
records accepted before it. -/
structure ExecutorGuidanceState where
  records : List JournalRecord
  waiting : List ApplyExecutorGuidanceRequest
  call : Option ExecutorGuidanceCall
  sends : List (ExecutorGuidanceRequestId × Nat)
deriving DecidableEq

def emptyExecutorGuidanceState : ExecutorGuidanceState :=
  ⟨[], [], none, []⟩

/-- Steps of callers, of the call that holds the control, of other writers and of the process. -/
inductive ExecutorGuidanceAction where
  | accept (event : WorkflowJournalEvent)
  | apply (request : ApplyExecutorGuidanceRequest)
  | send (request : SendExecutorGuidanceRequest)
  | enter (index : Nat)
  | read
  | acceptRequest (answer : JournalAppendAnswer)
  | select (selection : Option ExecutorGuidanceSelection)
  | reread
  | intend (answer : JournalAppendAnswer)
  /-- The executor is called; no answer cuts the call. -/
  | transmit (answer : Option ExecutorGuidanceTransmission)
  | observe (answer : JournalAppendAnswer)
  | interrupt
  | crash
deriving DecidableEq

namespace ExecutorGuidanceState

variable (control : ExecutorGuidanceControl)

def appending (state : ExecutorGuidanceState) (answer : JournalAppendAnswer)
    (guidance : ExecutorGuidanceJournalEvent) (reply : Option ExecutorGuidanceReply)
    (call : Option ExecutorGuidanceCall) : Option ExecutorGuidanceReply × ExecutorGuidanceState :=
  let outcome := answer.append control.runId state.records guidance
  if outcome.1 then (reply, { state with records := outcome.2, call })
  else (some (.journalFailure guidance.requestId), { state with records := outcome.2, call := none })

def queued (state : ExecutorGuidanceState) (request : ApplyExecutorGuidanceRequest) :
    Option ExecutorGuidanceReply × ExecutorGuidanceState :=
  if request.plannedAttempt.runId ≠ control.runId then
    (some (.disposition request.requestId (.refused .targetChanged)), state)
  else (none, { state with waiting := state.waiting ++ [request] })

/-- One step; a step that no call stands at does nothing. -/
def step (action : ExecutorGuidanceAction) (state : ExecutorGuidanceState) :
    Option ExecutorGuidanceReply × ExecutorGuidanceState :=
  match action, state.call with
  | .accept event, _ =>
      if isExecutorGuidance event then (none, state)
      else (none, { state with records := (acceptedRecords control.runId state.records event).2 })
  | .apply request, _ => state.queued control request
  | .send request, _ =>
      match control.planOf request state.records with
      | .error reply => (some reply, state)
      | .ok request => state.queued control request
  | .enter index, none =>
      match state.waiting[index]? with
      | none => (none, state)
      | some request =>
          (none, { state with
            waiting := state.waiting.eraseIdx index
            call := some (.applying request) })
  | .read, some (.applying request) =>
      let outcome := control.afterReading request state.records
      (outcome.1, { state with call := outcome.2 })
  | .acceptRequest answer, some (.admitting request seen) =>
      state.appending control answer (.admitted (control.metadata request)) none
        (some (control.afterAdmission request seen))
  | .select selection, some (.selecting request) =>
      (none, { state with call := some (ExecutorGuidanceControl.afterSelection request selection) })
  | .reread, some (.rereading request target) =>
      (none, { state with call := some (control.afterRereading request target state.records) })
  | .intend answer, some (.intending request target) =>
      state.appending control answer (.dispatchIntended request.requestId target) none
        (some (.sending request target))
  | .transmit answer, some (.sending request _) =>
      (none, { state with
        sends := state.sends ++ [(request.requestId, state.records.length)]
        call := answer.map (.observing request.requestId) })
  | .observe answer, some (.observing requestId disposition) =>
      state.appending control answer (.observed requestId disposition)
        (some (.disposition requestId disposition)) none
  | .interrupt, _ => (none, { state with call := none })
  | .crash, _ => (none, { state with waiting := [], call := none })
  | _, _ => (none, state)

def after (actions : List ExecutorGuidanceAction) : ExecutorGuidanceState :=
  (Machine.run (step control) emptyExecutorGuidanceState actions).2

end ExecutorGuidanceState

end Dalph
