import Dalph.Coordination.Reconstruction.ChoiceRules

/-!
# Guidance for an executor

The Operator sends text to the executor of an attempt.  A request is admitted, its transmission is
intended and its disposition is observed, each under a key of the request; the checks of one event
read the records before it.
-/

namespace Dalph

structure ExecutorGuidanceRequestId where
  value : String
deriving DecidableEq

structure ExecutorGuidanceTarget where
  plannedAttempt : PlannedTaskAttempt
  session : String
  turn : String
deriving DecidableEq

inductive ExecutorGuidanceRefusalReason where
  | ownerUnavailable
  | capabilityUnavailable
  | attemptInactive
  | custodyUnproved
  | targetChanged
  | textTooLarge
  | payloadLost
deriving DecidableEq

inductive ExecutorGuidanceSelection where
  | selected (target : ExecutorGuidanceTarget)
  | refused (reason : ExecutorGuidanceRefusalReason)
deriving DecidableEq

/-- Disposition of a request. -/
inductive ExecutorGuidanceTransmission where
  | accepted
  | refused (reason : ExecutorGuidanceRefusalReason)
  | unknown
deriving DecidableEq

def executorGuidanceTextByteLimit : Nat :=
  16 * 1024

/-- What is kept of a request; its text is not. -/
structure ExecutorGuidanceMetadata where
  requestId : ExecutorGuidanceRequestId
  plannedAttempt : PlannedTaskAttempt
  payloadDigest : String
  payloadBytes : Nat
deriving DecidableEq

inductive ExecutorGuidanceJournalEvent where
  | admitted (metadata : ExecutorGuidanceMetadata)
  | dispatchIntended (requestId : ExecutorGuidanceRequestId) (target : ExecutorGuidanceTarget)
  | observed (requestId : ExecutorGuidanceRequestId) (disposition : ExecutorGuidanceTransmission)
deriving DecidableEq

namespace ExecutorGuidanceRefusalReason

def name : ExecutorGuidanceRefusalReason → String
  | ownerUnavailable => "OwnerUnavailable"
  | capabilityUnavailable => "CapabilityUnavailable"
  | attemptInactive => "AttemptInactive"
  | custodyUnproved => "CustodyUnproved"
  | targetChanged => "TargetChanged"
  | textTooLarge => "TextTooLarge"
  | payloadLost => "PayloadLost"

def all : List ExecutorGuidanceRefusalReason :=
  [ownerUnavailable, capabilityUnavailable, attemptInactive, custodyUnproved, targetChanged,
    textTooLarge, payloadLost]

def ofName? (name : String) : Option ExecutorGuidanceRefusalReason :=
  all.find? fun reason => reason.name = name

@[simp]
theorem ofName?_name (reason : ExecutorGuidanceRefusalReason) :
    ofName? reason.name = some reason := by
  cases reason <;> decide

end ExecutorGuidanceRefusalReason

def ExecutorGuidanceTarget.encode (target : ExecutorGuidanceTarget) : Json :=
  .obj [("plannedAttempt", target.plannedAttempt.encode), ("session", .str target.session),
    ("turn", .str target.turn)]

def executorGuidanceTarget? (value : Option Json) : Option ExecutorGuidanceTarget := do
  some
    { plannedAttempt := ← plannedTaskAttempt? (field value "plannedAttempt")
      session := ← text (field value "session")
      turn := ← text (field value "turn") }

def ExecutorGuidanceTransmission.encode : ExecutorGuidanceTransmission → Json
  | accepted => .obj [("_tag", .str "Accepted")]
  | refused reason => .obj [("_tag", .str "Refused"), ("reason", .str reason.name)]
  | unknown => .obj [("_tag", .str "Unknown")]

def executorGuidanceTransmission? (value : Option Json) : Option ExecutorGuidanceTransmission := do
  let tag ← text (field value "_tag")
  if tag = "Accepted" then some .accepted
  else if tag = "Unknown" then some .unknown
  else if tag = "Refused" then
    (ExecutorGuidanceRefusalReason.ofName? (← text (field value "reason"))).map .refused
  else none

def ExecutorGuidanceMetadata.encode (metadata : ExecutorGuidanceMetadata) : Json :=
  .obj [("requestId", .str metadata.requestId.value),
    ("plannedAttempt", metadata.plannedAttempt.encode),
    ("payloadDigest", .str metadata.payloadDigest), ("payloadBytes", .num metadata.payloadBytes)]

def executorGuidanceMetadata? (value : Option Json) : Option ExecutorGuidanceMetadata := do
  some
    { requestId := ⟨← text (field value "requestId")⟩
      plannedAttempt := ← plannedTaskAttempt? (field value "plannedAttempt")
      payloadDigest := ← text (field value "payloadDigest")
      payloadBytes := (← integer (field value "payloadBytes")).toNat }

namespace ExecutorGuidanceJournalEvent

def requestId : ExecutorGuidanceJournalEvent → ExecutorGuidanceRequestId
  | admitted metadata => metadata.requestId
  | dispatchIntended requestId _ => requestId
  | observed requestId _ => requestId

def kind : ExecutorGuidanceJournalEvent → ProtocolEventKind
  | admitted _ => .executorGuidanceAdmitted
  | dispatchIntended _ _ => .executorGuidanceDispatchIntended
  | observed _ _ => .executorGuidanceObserved

def keySuffix : ExecutorGuidanceJournalEvent → String
  | admitted _ => ":admitted"
  | dispatchIntended _ _ => ":dispatch-intended"
  | observed _ _ => ":observed"

def encode : ExecutorGuidanceJournalEvent → Json
  | admitted metadata => .obj [("metadata", metadata.encode)]
  | dispatchIntended requestId target =>
      .obj [("requestId", .str requestId.value), ("target", target.encode)]
  | observed requestId disposition =>
      .obj [("requestId", .str requestId.value), ("disposition", disposition.encode)]

def event (guidance : ExecutorGuidanceJournalEvent) : WorkflowJournalEvent :=
  .protocol
    { kind := guidance.kind
      keySubject := guidance.requestId.value ++ guidance.keySuffix
      attemptIds := []
      payload := ⟨guidance.encode.stringify⟩ }

end ExecutorGuidanceJournalEvent

def executorGuidanceEvent? : WorkflowJournalEvent → Option ExecutorGuidanceJournalEvent
  | .protocol event =>
      let value := some event.payload.object
      match event.kind with
      | .executorGuidanceAdmitted =>
          (executorGuidanceMetadata? (field value "metadata")).map .admitted
      | .executorGuidanceDispatchIntended => do
          some (.dispatchIntended ⟨← text (field value "requestId")⟩
            (← executorGuidanceTarget? (field value "target")))
      | .executorGuidanceObserved => do
          some (.observed ⟨← text (field value "requestId")⟩
            (← executorGuidanceTransmission? (field value "disposition")))
      | _ => none
  | _ => none

theorem plannedTaskAttempt?_encode (plannedAttempt : PlannedTaskAttempt) :
    plannedTaskAttempt? (some plannedAttempt.encode) = some plannedAttempt := by
  obtain ⟨_, _, _, _, ⟨_, named⟩, _, _, _⟩ := plannedAttempt
  simp [plannedTaskAttempt?, PlannedTaskAttempt.encode, field, text, attemptId?, taskId?,
    List.lookup, named]

theorem PlannedTaskAttempt.encode_wellFormed (plannedAttempt : PlannedTaskAttempt) :
    Json.WellFormed plannedAttempt.encode :=
  .obj (by simp) (by simp [Json.WellFormed.str])

theorem executorGuidanceTarget?_encode (target : ExecutorGuidanceTarget) :
    executorGuidanceTarget? (some target.encode) = some target := by
  simp [executorGuidanceTarget?, ExecutorGuidanceTarget.encode, field, text, List.lookup,
    plannedTaskAttempt?_encode]

theorem executorGuidanceTransmission?_encode (disposition : ExecutorGuidanceTransmission) :
    executorGuidanceTransmission? (some disposition.encode) = some disposition := by
  cases disposition <;>
    simp [executorGuidanceTransmission?, ExecutorGuidanceTransmission.encode, field, text,
      List.lookup]

theorem executorGuidanceMetadata?_encode (metadata : ExecutorGuidanceMetadata) :
    executorGuidanceMetadata? (some metadata.encode) = some metadata := by
  simp [executorGuidanceMetadata?, ExecutorGuidanceMetadata.encode, field, text, integer,
    List.lookup, plannedTaskAttempt?_encode]

theorem ExecutorGuidanceJournalEvent.encode_wellFormed (guidance : ExecutorGuidanceJournalEvent) :
    Json.WellFormed guidance.encode := by
  cases guidance with
  | admitted metadata =>
      refine .obj (by simp) ?_
      simp only [List.mem_singleton, forall_eq]
      exact .obj (by simp) (by
        simp [Json.WellFormed.str, Json.WellFormed.num, PlannedTaskAttempt.encode_wellFormed])
  | dispatchIntended requestId target =>
      have target : Json.WellFormed target.encode :=
        .obj (by simp) (by simp [Json.WellFormed.str, PlannedTaskAttempt.encode_wellFormed])
      exact .obj (by simp) (by simp [Json.WellFormed.str, target])
  | observed requestId disposition =>
      have disposition : Json.WellFormed disposition.encode := by
        cases disposition <;> exact .obj (by simp) (by simp [Json.WellFormed.str])
      exact .obj (by simp) (by simp [Json.WellFormed.str, disposition])

@[simp]
theorem executorGuidanceEvent?_event (guidance : ExecutorGuidanceJournalEvent) :
    executorGuidanceEvent? guidance.event = some guidance := by
  have object : Payload.object ⟨guidance.encode.stringify⟩ = guidance.encode := by
    unfold Payload.object
    rw [Json.parse_stringify guidance.encode_wellFormed]
    rfl
  unfold ExecutorGuidanceJournalEvent.event executorGuidanceEvent?
  dsimp only
  rw [object]
  cases guidance with
  | admitted metadata =>
      simp [ExecutorGuidanceJournalEvent.kind, ExecutorGuidanceJournalEvent.encode, field,
        List.lookup, executorGuidanceMetadata?_encode]
  | dispatchIntended requestId target =>
      simp [ExecutorGuidanceJournalEvent.kind, ExecutorGuidanceJournalEvent.encode, field, text,
        List.lookup, executorGuidanceTarget?_encode]
  | observed requestId disposition =>
      simp [ExecutorGuidanceJournalEvent.kind, ExecutorGuidanceJournalEvent.encode, field, text,
        List.lookup, executorGuidanceTransmission?_encode]

def executorGuidanceAdmittedRecordKey (requestId : ExecutorGuidanceRequestId) : JournalRecordKey :=
  { value := s!"executor-guidance:{requestId.value}:admitted" }

def executorGuidanceDispatchIntendedRecordKey (requestId : ExecutorGuidanceRequestId) :
    JournalRecordKey :=
  { value := s!"executor-guidance:{requestId.value}:dispatch-intended" }

def executorGuidanceObservedRecordKey (requestId : ExecutorGuidanceRequestId) : JournalRecordKey :=
  { value := s!"executor-guidance:{requestId.value}:observed" }

def endsGuidanceOf (attempt : PlannedTaskAttempt) : WorkflowJournalEvent → Bool
  | .protocol event => event.kind = .integrationStarted
  | .plannedAttemptReplaced event =>
      event.subject.plannedAttempt.attemptId = attempt.attemptId
  | .resultRecoveryAttemptReplaced event =>
      event.subject.plannedAttempt.attemptId = attempt.attemptId
  | _ => false

def executorGuidanceDispatchProblem (source : JournalHistorySource)
    (attempt : PlannedTaskAttempt) : Option String :=
  if (recordedTaskAttemptPlanFor source attempt).isNone then
    some "guidance selection differs from its immutable plan"
  else if !(latestAcceptedPlannedAttemptExecutorEvidence source attempt none).any
      (·.report.isExecuting) then
    some "guidance requires accepted executing implementation work"
  else if (journalRecordsForAttempt attempt.attemptId source).any (endsGuidanceOf attempt ·.event) then
    some "guidance selection crossed its implementation cutoff"
  else none

def admittedMetadata? (source : JournalHistorySource) (requestId : ExecutorGuidanceRequestId) :
    Option ExecutorGuidanceMetadata :=
  match (journalRecordByKey (executorGuidanceAdmittedRecordKey requestId) source).bind
      (executorGuidanceEvent? ·.event) with
  | some (.admitted metadata) => some metadata
  | _ => none

def observedDisposition? (source : JournalHistorySource) (requestId : ExecutorGuidanceRequestId) :
    Option ExecutorGuidanceTransmission :=
  match (journalRecordByKey (executorGuidanceObservedRecordKey requestId) source).bind
      (executorGuidanceEvent? ·.event) with
  | some (.observed _ disposition) => some disposition
  | _ => none

def dispatchIntended (source : JournalHistorySource) (requestId : ExecutorGuidanceRequestId) : Bool :=
  match (journalRecordByKey (executorGuidanceDispatchIntendedRecordKey requestId) source).bind
      (executorGuidanceEvent? ·.event) with
  | some (.dispatchIntended _ _) => true
  | _ => false

/-- What the records before an effect of a request say about it. -/
def executorGuidanceEffectProblem (source : JournalHistorySource) (runId : RunId)
    (requestId : ExecutorGuidanceRequestId)
    (proceed : ExecutorGuidanceMetadata → Option String) : Option String :=
  match admittedMetadata? source requestId with
  | none => some "guidance effect has no exact admission"
  | some metadata =>
      if metadata.plannedAttempt.runId ≠ runId then some "guidance effect names another Run"
      else if (journalRecordByKey (executorGuidanceObservedRecordKey requestId) source).isSome then
        some "guidance request already has an observed disposition"
      else proceed metadata

/-- Why an event does not follow the records before it. -/
def executorGuidanceEventProblem (source : JournalHistorySource) (runId : RunId) :
    ExecutorGuidanceJournalEvent → Option String
  | .admitted metadata =>
      if metadata.plannedAttempt.runId ≠ runId then some "guidance admission names another Run"
      else if (recordedTaskAttemptPlanFor source metadata.plannedAttempt).isNone then
        some "guidance admission differs from its immutable plan"
      else if (admittedMetadata? source metadata.requestId).any (· ≠ metadata) then
        some "guidance request identity was reused for another input"
      else none
  | .dispatchIntended requestId target =>
      executorGuidanceEffectProblem source runId requestId fun metadata =>
        if metadata.payloadBytes > executorGuidanceTextByteLimit then
          some "oversized guidance cannot authorize transmission"
        else if (journalRecordByKey (executorGuidanceDispatchIntendedRecordKey requestId)
            source).isSome then
          some "guidance request already has transmission intent"
        else if target.plannedAttempt ≠ metadata.plannedAttempt then
          some "guidance target differs from its admitted attempt"
        else executorGuidanceDispatchProblem source metadata.plannedAttempt
  | .observed requestId disposition =>
      executorGuidanceEffectProblem source runId requestId fun _ =>
        match disposition with
        | .refused reason =>
            if reason = .payloadLost && (journalRecordByKey
                (executorGuidanceDispatchIntendedRecordKey requestId) source).isSome then
              some "possible transmission cannot be downgraded to lost unsent text"
            else none
        | .accepted | .unknown =>
            if dispatchIntended source requestId then none
            else some "guidance acknowledgement or uncertainty has no exact transmission intent"

/-- What is kept of an earlier delivery of a request. -/
inductive ExecutorGuidanceRedelivery where
  | new
  | contradiction
  | retained (disposition : ExecutorGuidanceTransmission)
  | observe (disposition : ExecutorGuidanceTransmission)
deriving DecidableEq

/-- Redelivery reads what is recorded; the text of a request is never taken again. -/
def executorGuidanceRedelivery (source : JournalHistorySource)
    (metadata : ExecutorGuidanceMetadata) : ExecutorGuidanceRedelivery :=
  if (journalRecordByKey (executorGuidanceAdmittedRecordKey metadata.requestId) source).isNone then
    .new
  else if admittedMetadata? source metadata.requestId ≠ some metadata then .contradiction
  else
    match observedDisposition? source metadata.requestId with
    | some disposition => .retained disposition
    | none =>
        if (journalRecordByKey (executorGuidanceDispatchIntendedRecordKey metadata.requestId)
            source).isNone then
          .observe (.refused .payloadLost)
        else .observe .unknown

end Dalph
