import Dalph.WorkflowJournal.Record

/-!
# Beginning and terminating a Run

The two lifecycle transitions of a Run are decided on its records before anything is stored.
Terminal evidence is rechecked against the immutable prefix it claims to describe.
-/

namespace Dalph

namespace JournalRecord

def trackerFacts? (record : JournalRecord) : Option TaskTrackerFactsObservation :=
  match record.event with
  | .taskTrackerFactsObserved observation => some observation
  | _ => none

def completeFacts? (record : JournalRecord) : Option CompleteTaskTrackerFactsObserved :=
  record.trackerFacts?.bind (·.complete?)

def trackerRead? (record : JournalRecord) : Option TaskTrackerReadOperation :=
  match record.event with
  | .taskTrackerReadIntentRecorded operation => some operation
  | _ => none

def runBegan? (record : JournalRecord) : Option WorkflowRunBegan :=
  match record.event with
  | .workflowRunBegan event => some event
  | _ => none

theorem isRunBegan_of_runBegan? {record : JournalRecord} {began : WorkflowRunBegan}
    (beginning : record.runBegan? = some began) : record.event.isRunBegan = true := by
  unfold runBegan? at beginning
  split at beginning
  next same => simp [same, WorkflowJournalEvent.isRunBegan, WorkflowJournalEvent.tag]
  next => cases beginning

theorem exists_runBegan?_of_isRunBegan {record : JournalRecord}
    (began : record.event.isRunBegan = true) : ∃ event, record.runBegan? = some event := by
  cases stored : record.event with
  | workflowRunBegan event => exact ⟨event, by simp [runBegan?, stored]⟩
  | _ => simp [WorkflowJournalEvent.isRunBegan, WorkflowJournalEvent.tag, stored] at began

def isRunCancellationApplied (record : JournalRecord) : Bool :=
  record.event.tag = .runCancellationApplied

end JournalRecord

def exactWorkflowRunTargetFor (records : List JournalRecord) : Option TrackerTarget :=
  match records.filter (·.event.isRunBegan) with
  | [beginning] => beginning.runBegan?.map (·.target)
  | _ => none

def isGraphObservationForTarget (record : JournalRecord) (target : TrackerTarget) : Bool :=
  record.trackerFacts?.any fun facts =>
    facts.isGraphFacts && taskTrackerTargetKey facts.target = taskTrackerTargetKey target

/-- Detects a newer complete graph fact before the proposed terminal position. -/
def hasLaterCompleteObservation (records : List JournalRecord) (evidence : RunFinalityEvidence)
    (terminationPosition : JournalPosition) : Bool :=
  match exactWorkflowRunTargetFor records with
  | none => false
  | some target =>
      records.any fun record =>
        record.position > evidence.observedAt && record.position < terminationPosition &&
          isGraphObservationForTarget record target

abbrev RunBeginning := WorkflowRunBegan

def makeWorkflowRunBeganRecord (runId : RunId) (beginning : RunBeginning) : JournalRecord :=
  { event := .workflowRunBegan beginning
    key := workflowRunBeganRecordKey
    position := 1
    runId }

def decideWorkflowRunBeginning (records : List JournalRecord) (runId : RunId)
    (beginning : RunBeginning) : Except JournalStoreFailure JournalRecord :=
  match records.find? (·.event.isRunBegan), records with
  | some began, _ => .error (.workflowRunAlreadyBegan began.position runId)
  | none, [] => .ok (makeWorkflowRunBeganRecord runId beginning)
  | none, first :: _ => .error (.workflowRunIdentityAlreadyUsed first.position runId)

/-- The observation that terminal evidence names, when it precedes the terminal position. -/
def observedFinalityRecord (records : List JournalRecord) (evidence : RunFinalityEvidence)
    (terminationPosition : JournalPosition) : Option TaskTrackerFactsObservation := do
  let observed ← records.find? fun candidate =>
    candidate.position = evidence.observedAt && candidate.trackerFacts?.any (·.isGraphFacts)
  if observed.position ≥ terminationPosition then none else observed.trackerFacts?

def completeObservationFor (records : List JournalRecord)
    (observation : TaskTrackerFactsObservation) : Option CompleteTaskTrackerFactsObserved :=
  match observation with
  | .completeTaskTrackerFacts facts => some facts
  | .unchangedTaskTrackerFactsReconfirmed facts =>
      (records.find? fun candidate =>
        candidate.trackerFacts?.any fun observed =>
          observed.operationId = facts.priorFullObservationOperationId &&
            observed.complete?.isSome).bind (·.completeFacts?)
  | _ => none

def firstObservedRootTaskIdFor (records : List JournalRecord) (target : TrackerTarget) :
    Option TaskId := do
  let first ← records.find? (isGraphObservationForTarget · target)
  let observation ← first.trackerFacts?
  let complete ← completeObservationFor records observation
  complete.rootTaskId

def issueUnless (condition : Bool) (issue : String) : List String :=
  if condition then [] else [issue]

@[simp]
theorem issueUnless_eq_nil {condition : Bool} {issue : String} :
    issueUnless condition issue = [] ↔ condition = true := by
  simp [issueUnless]

/-- The read that the evidence names is the graph read of its target and subjects. -/
def readIntentIssues (records : List JournalRecord) (evidence : RunFinalityEvidence) :
    List String :=
  match (records.find? fun candidate =>
      candidate.trackerRead?.any (·.operationId = evidence.operationId)).bind (·.trackerRead?) with
  | some (.readTrackerGraph operation) =>
      issueUnless
        (taskTrackerTargetKey operation.target = taskTrackerTargetKey evidence.target &&
          exactTaskIdSetKey operation.explicitlyCoveredTaskIds =
            exactTaskIdSetKey evidence.readShape)
        "termination evidence read shape or target does not match its graph-read intent"
  | _ => ["termination evidence must name the exact complete graph-read intent"]

def graphFactEvidence : TaskTrackerFactsObservation → List CompleteFactEvidence
  | .completeTaskTrackerFacts facts => facts.factFamilies.evidence
  | .unchangedTaskTrackerFactsReconfirmed facts => facts.factFamilies.evidence
  | _ => []

def freshObservationIssues (freshObservation : TaskTrackerFactsObservation)
    (evidence : RunFinalityEvidence) : List String :=
  issueUnless
      (freshObservation.operationId = evidence.operationId &&
        taskTrackerTargetKey freshObservation.target = taskTrackerTargetKey evidence.target)
      "termination evidence operation or target does not match the observed graph" ++
    issueUnless
      ((graphFactEvidence freshObservation).all fun family =>
        family.contentIdentity = evidence.contentIdentity &&
          taskTrackerTargetKey family.coverage.target = taskTrackerTargetKey evidence.target &&
          exactTaskIdSetKey family.coverage.explicitlyCoveredTaskIds =
            exactTaskIdSetKey evidence.coverage.explicitlyCoveredTaskIds)
      "termination evidence does not match the fresh observation's identity and coverage"

def completeFactFamilyIssues (observation : CompleteTaskTrackerFactsObserved)
    (evidence : RunFinalityEvidence) : List String :=
  issueUnless
      ((evidence.requiredFactFamilies.zip
        (requiredRunFinalityFactFamilies.map some ++
          List.replicate evidence.requiredFactFamilies.length none)).all fun (family, required) =>
            some family = required)
      "termination evidence must include every complete graph fact family" ++
    issueUnless (some evidence.rootTaskId = observation.rootTaskId)
      "termination evidence must retain the exact tracker-selected Run root" ++
    issueUnless
      (observation.factFamilies.groupings.rows.any fun (taskId, _) => taskId = evidence.rootTaskId)
      "termination evidence Run root must belong to the complete grouping facts"

def observedTaskFacts (observation : CompleteTaskTrackerFactsObserved) : List RunGraphTaskFacts :=
  observation.factFamilies.lifecycles.rows.map fun (taskId, lifecycle) =>
    { id := taskId
      lifecycle
      prerequisiteIds := (rowOf observation.factFamilies.prerequisites.rows taskId).getD [] }

def completeGraphOutcomeIssues (observation : CompleteTaskTrackerFactsObserved)
    (evidence : RunFinalityEvidence) : List String :=
  let graphFacts := runGraphTaskFactsOutcome (observedTaskFacts observation)
  issueUnless
      (evidence.contentIdentity = observation.factFamilies.identities.evidence.contentIdentity &&
        evidence.graphOutcome = graphFacts.graphOutcome)
      "termination evidence revision or graph outcome is not current" ++
    issueUnless
      (exactTaskIdSetKey evidence.terminalTaskIds = exactTaskIdSetKey graphFacts.terminalTaskIds)
      "termination evidence terminal task facts do not match the graph" ++
    issueUnless
      (exactTaskIdSetKey evidence.blockedTaskIds = exactTaskIdSetKey graphFacts.blockedTaskIds)
      "termination evidence dependency blockage facts do not match the graph"

def dispositionIssues (records : List JournalRecord) (disposition : RunTerminationDisposition)
    (graphOutcome : RunGraphOutcome) : List String :=
  issueUnless
    (runTerminationDispositionOf graphOutcome (records.any (·.isRunCancellationApplied)) =
      some disposition)
    "termination disposition does not follow graph evidence and cancellation precedence"

def cancellationEvidenceIssues (records : List JournalRecord) (evidence : RunFinalityEvidence) :
    List String :=
  issueUnless
    ((records.reverse.find? (·.isRunCancellationApplied)).all fun cancellation =>
      cancellation.position < evidence.observedAt)
    "cancellation terminal evidence must use a graph observation after RunCancellationApplied"

def basicEvidenceIssues (runId : RunId) (beganTarget : TrackerTarget)
    (evidence : RunFinalityEvidence) : List String :=
  issueUnless (evidence.runId = runId) "termination evidence must name the journal Run" ++
    issueUnless (taskTrackerTargetKey evidence.target = taskTrackerTargetKey beganTarget)
      "termination evidence must name the beginning target" ++
    issueUnless (evidence.complete && evidence.rootTaskId.value.length ≠ 0)
      "termination evidence must prove complete root coverage"

def firstRootIssues (records : List JournalRecord) (evidence : RunFinalityEvidence) :
    List String :=
  issueUnless (firstObservedRootTaskIdFor records evidence.target = some evidence.rootTaskId)
    "termination evidence must retain the first tracker-selected Run root"

def latestObservationIssues (records : List JournalRecord) (evidence : RunFinalityEvidence)
    (terminationPosition : JournalPosition) : List String :=
  issueUnless (!hasLaterCompleteObservation records evidence terminationPosition)
    "termination evidence must use the latest complete graph observation"

/-- Every defect of terminal evidence against the prefix it would end. -/
def terminationEvidenceIssues (records : List JournalRecord) (runId : RunId)
    (disposition : RunTerminationDisposition) (evidence : RunFinalityEvidence)
    (terminationPosition : JournalPosition) : List String :=
  match (records.find? (·.event.isRunBegan)).bind (·.runBegan?) with
  | none => ["termination evidence requires the exact Run beginning"]
  | some began =>
      let basic := basicEvidenceIssues runId began.target evidence
      match observedFinalityRecord records evidence terminationPosition with
      | none =>
          basic ++
            ["termination evidence must name one earlier complete or unchanged tracker observation position"]
      | some observed =>
          match completeObservationFor records observed with
          | none =>
              basic ++
                ["unchanged termination evidence must link to its earlier complete tracker observation"]
          | some observation =>
              basic ++ readIntentIssues records evidence ++
                freshObservationIssues observed evidence ++
                completeFactFamilyIssues observation evidence ++
                completeGraphOutcomeIssues observation evidence ++
                firstRootIssues records evidence ++
                dispositionIssues records disposition evidence.graphOutcome ++
                cancellationEvidenceIssues records evidence ++
                latestObservationIssues records evidence terminationPosition

def makeWorkflowRunTerminatedRecord (runId : RunId) (position : JournalPosition)
    (disposition : RunTerminationDisposition) (evidence : RunFinalityEvidence) : JournalRecord :=
  { event := .workflowRunTerminated ⟨disposition, evidence⟩
    key := workflowRunTerminatedRecordKey
    position
    runId }

/-- What the stores take from history reconstruction. -/
structure HistoryKernel where
  /-- Details of the issues that `reduceWorkflowJournalHistory` reports; none when it accepts. -/
  reductionIssues : RunId → List JournalRecord → List String
  /-- `graphKnowledgeIssues`, else `responsibilityIssues`, of an accepted history. -/
  unsettledIssues : RunId → List JournalRecord → List String
  /-- An accepted history keeps every record under the key of its event. -/
  canonicalKeys : ∀ runId records, reductionIssues runId records = [] →
    ∀ record ∈ records, record.key = record.event.expectedKey

/-- Storage-boundary checks for facts that the terminal event does not represent. -/
def terminationPreconditionIssues (kernel : HistoryKernel) (records : List JournalRecord)
    (runId : RunId) : List String :=
  if kernel.reductionIssues runId records ≠ [] then
    ["termination requires a valid workflow-journal history prefix"]
  else if exactWorkflowRunTargetFor records = none then
    ["termination requires the exact WorkflowRunBegan target"]
  else kernel.unsettledIssues runId records

/-- Decides the only legal final lifecycle transition. -/
def decideWorkflowRunTermination (kernel : HistoryKernel) (records : List JournalRecord)
    (runId : RunId) (disposition : RunTerminationDisposition) (evidence : RunFinalityEvidence) :
    Except JournalStoreFailure JournalRecord :=
  match records.find? (·.event.isRunBegan), records.find? (·.event.isRunTerminated) with
  | none, _ => .error (.workflowRunNotBegan runId)
  | some _, some terminated => .error (.workflowRunAlreadyTerminated runId terminated.position)
  | some _, none =>
      let terminationPosition := records.length + 1
      match terminationEvidenceIssues records runId disposition evidence terminationPosition,
          terminationPreconditionIssues kernel records runId with
      | issue :: _, _ => .error (.workflowRunTerminationEvidenceInvalid issue runId)
      | [], issue :: _ => .error (.workflowRunTerminationEvidenceInvalid issue runId)
      | [], [] =>
          .ok (makeWorkflowRunTerminatedRecord runId terminationPosition disposition evidence)

/-- Rereads the facts required to retain an already-established Run. -/
def readRecoverableRunBeginning (records : List JournalRecord) (runId : RunId)
    (target : TrackerTarget) : Except JournalStoreFailure JournalRecord :=
  match records.find? (·.event.isRunBegan), records.find? (·.event.isRunTerminated) with
  | none, _ => .error (.workflowRunNotBegan runId)
  | some _, some terminated => .error (.workflowRunAlreadyTerminated runId terminated.position)
  | some began, none =>
      match began.runBegan? with
      | none => .error (.workflowRunNotBegan runId)
      | some event =>
          if taskTrackerTargetKey event.target = taskTrackerTargetKey target then .ok began
          else .error (.workflowRunTargetMismatch event.target target runId)

variable {records : List JournalRecord} {record : JournalRecord}

theorem decideWorkflowRunBeginning_ok {runId : RunId} {beginning : RunBeginning}
    (accepted : decideWorkflowRunBeginning records runId beginning = .ok record) :
    records = [] ∧ record = makeWorkflowRunBeganRecord runId beginning := by
  unfold decideWorkflowRunBeginning at accepted
  split at accepted <;> simp_all

section

variable {kernel : HistoryKernel} {runId : RunId} {disposition : RunTerminationDisposition}
  {evidence : RunFinalityEvidence}
  (accepted : decideWorkflowRunTermination kernel records runId disposition evidence = .ok record)
include accepted

theorem decideWorkflowRunTermination_ok :
    (∃ began, records.find? (·.event.isRunBegan) = some began) ∧
      records.find? (·.event.isRunTerminated) = none ∧
      terminationEvidenceIssues records runId disposition evidence (records.length + 1) = [] ∧
      kernel.reductionIssues runId records = [] ∧
      record = makeWorkflowRunTerminatedRecord runId (records.length + 1) disposition evidence := by
  unfold decideWorkflowRunTermination at accepted
  split at accepted
  next => cases accepted
  next => cases accepted
  next began began_eq terminated_eq =>
    simp only at accepted
    split at accepted
    · cases accepted
    · cases accepted
    · rename_i evidence_eq precondition_eq
      cases accepted
      refine ⟨⟨began, began_eq⟩, terminated_eq, evidence_eq, ?_, rfl⟩
      by_contra invalid
      simp [terminationPreconditionIssues, invalid] at precondition_eq

theorem decideWorkflowRunTermination_fresh :
    ∀ earlier ∈ records, earlier.key ≠ workflowRunTerminatedRecordKey := by
  obtain ⟨-, open_, -, reduced, -⟩ := decideWorkflowRunTermination_ok accepted
  intro earlier listed sameKey
  rw [kernel.canonicalKeys runId records reduced earlier listed] at sameKey
  have terminal := WorkflowJournalEvent.expectedKey_eq_terminated sameKey
  simpa [WorkflowJournalEvent.isRunTerminated, terminal] using
    List.find?_eq_none.mp open_ earlier listed

end

end Dalph
