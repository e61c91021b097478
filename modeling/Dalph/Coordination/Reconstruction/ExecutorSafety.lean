import Dalph.Coordination.Reconstruction.ForwardWork
import Dalph.Coordination.Reconstruction.UnfinishedAttempts

/-!
# Safety of the executor protocol

In an accepted history the records of an executor are numbered from one, it owes one answer at most,
and nothing of it follows the end of its attempt.  Only the abandonment that a cancellation makes is
no such end: an observation may follow it.
-/

namespace Dalph

inductive ExecutorSeries where
  | commands (attemptId : AttemptId)
  | projections (attemptId : AttemptId) (commandOrdinal : Nat)
  | observations (attemptId : AttemptId)
  | reports (attemptId : AttemptId)
deriving DecidableEq

/-- The series that an executor record belongs to, with its ordinal there. -/
def executorOrdinal? : WorkflowJournalEvent → Option (ExecutorSeries × Nat)
  | .plannedAttemptExecutorCommandIntended event =>
      some (.commands event.plannedAttempt.attemptId, event.ordinal)
  | .plannedAttemptExecutorCommandProjectionObserved event =>
      some (.projections event.plannedAttempt.attemptId event.commandOrdinal,
        event.projectionOrdinal)
  | .plannedAttemptExecutorStateObserved event =>
      some (.observations event.plannedAttempt.attemptId, event.ordinal)
  | .plannedAttemptExecutorWorkReported event =>
      some (.reports event.report.correlation.attemptId, event.ordinal)
  | _ => none

def inSeries (series : ExecutorSeries) (record : JournalRecord) : Bool :=
  (executorOrdinal? record.event).any (·.1 = series)

def EndsExecution (event : WorkflowJournalEvent) (attemptId : AttemptId) : Prop :=
  (stoppedAttempt? event).map (·.attemptId) = some attemptId ∨
    (recoveredAttempt? event).map (·.attemptId) = some attemptId ∨
    (restartedAttempt? event).map (·.attemptId) = some attemptId

/-- The last report of the attempt accepts a safe suspension. -/
structure LastSuspension (before : List JournalRecord) (attemptId : AttemptId)
    (safe : JournalRecord) : Prop where
  member : safe ∈ before
  suspended : ∃ event, safe.event = .plannedAttemptExecutorWorkReported event ∧
    event.report.isSafelySuspended = true ∧ event.report.correlation.attemptId = attemptId
  latest : ∀ other ∈ before, inSeries (.reports attemptId) other = true →
    other.position ≤ safe.position

def ResumedBehind (before : List JournalRecord) (position : JournalPosition)
    (attemptId : AttemptId) : Prop :=
  ∃ resume ∈ before, position < resume.position ∧ ∃ command,
    resume.event = .plannedAttemptExecutorCommandIntended command ∧ command.command = .resume ∧
      command.plannedAttempt.attemptId = attemptId

/-- An executor's record against the records before it. -/
structure SafeExecutorRecord (before : List JournalRecord) (record : JournalRecord) : Prop where
  contiguous : ∀ series ordinal, executorOrdinal? record.event = some (series, ordinal) →
    ordinal = before.countP (inSeries series) + 1
  begunOnce : ∀ attemptId, beginsAttempt attemptId record.event = true →
    ∀ earlier ∈ before, beginsAttempt attemptId earlier.event = false
  unterminated : ∀ attemptId,
    inSeries (.commands attemptId) record = true ∨ inSeries (.reports attemptId) record = true →
      ∀ earlier ∈ before, terminatedAttempt? earlier.event ≠ some attemptId
  unended : ∀ correlation, record.event.executorCorrelation? = some correlation →
    ∀ earlier ∈ before, ¬ EndsExecution earlier.event correlation.attemptId
  resumed : ∀ event, record.event = .plannedAttemptExecutorWorkReported event →
    event.report.isExecuting = true →
      ∀ safe, LastSuspension before event.report.correlation.attemptId safe →
        ResumedBehind before safe.position event.report.correlation.attemptId

/-- A record intends a command of a plan, which nothing has answered since it was delivered last. -/
structure Unsettled (records : List JournalRecord) (plannedAttempt : PlannedTaskAttempt)
    (record : JournalRecord) (command : PlannedAttemptExecutorCommandIntended) : Prop where
  member : record ∈ records
  intends : commandIntended? plannedAttempt record.event = some command
  unanswered : ∀ answer ∈ records,
    settlesCommand plannedAttempt command.ordinal answer.event = true →
      record.position < answer.position →
        ∃ delivery ∈ records, redelivers plannedAttempt command.ordinal delivery.event = true ∧
          answer.position ≤ delivery.position

@[simp] def ExecutorIndexes.latestOrdinal (indexes : ExecutorIndexes) : ExecutorSeries → Nat
  | .commands attemptId => (indexes.executorCommandOrdinals.lookup attemptId).getD 0
  | .projections attemptId commandOrdinal =>
      (indexes.executorCommandProjectionOrdinals.lookup (attemptId, commandOrdinal)).getD 0
  | .observations attemptId => (indexes.executorStateObservationOrdinals.lookup attemptId).getD 0
  | .reports attemptId => (indexes.executorReportOrdinals.lookup attemptId).getD 0

section

variable {source : JournalHistorySource} {record : JournalRecord} {indexes : ExecutorIndexes}
  {plans : KeyedMap AttemptId PlannedTaskAttempt}

theorem ordinal_insert {Key : Type} [DecidableEq Key] {ordinals : KeyedMap Key Nat} {key : Key}
    {ordinal : Nat} (next : ordinal = nextOrdinal ordinals key) (other : Key) :
    (key = other → ordinal = (ordinals.lookup other).getD 0 + 1) ∧
      ((ordinals.insert key ordinal).lookup other).getD 0 =
        (ordinals.lookup other).getD 0 + if key = other then 1 else 0 := by
  rw [KeyedMap.lookup_insert_eq_ite, next, nextOrdinal]
  by_cases same : key = other
  · subst same
    simp
  · simp [same, Ne.symm same]

def Advances (record : JournalRecord) (indexes next : ExecutorIndexes) (series : ExecutorSeries) :
    Prop :=
  (∀ ordinal, executorOrdinal? record.event = some (series, ordinal) →
    ordinal = indexes.latestOrdinal series + 1) ∧
  next.latestOrdinal series =
    indexes.latestOrdinal series + if inSeries series record then 1 else 0

theorem advances_validateExecutorWork
    (accepted : (validateExecutorWork record source plans indexes).issues = [])
    (series : ExecutorSeries) :
    Advances record indexes (validateExecutorWork record source plans indexes).indexes series := by
  have unnumbered (other : executorOrdinal? record.event = none) {next : ExecutorIndexes}
      (kept : next.latestOrdinal series = indexes.latestOrdinal series) :
      Advances record indexes next series := by
    simp [Advances, inSeries, other, kept, -ExecutorIndexes.latestOrdinal]
  unfold validateExecutorWork at accepted ⊢
  split at accepted
  · next began shown =>
      refine unnumbered (by rw [shown]; rfl) ?_
      unfold validateResponsibilityBegan
      dsimp only
      split <;> cases series <;> rfl
  · next event shown =>
      simp only [Advances, inSeries, shown, executorOrdinal?, validateExecutorCommandIntent,
        List.append_eq_nil_iff, issueUnless_eq_nil, decide_eq_true_eq] at accepted ⊢
      cases series with
      | commands attemptId =>
          simpa using ordinal_insert accepted.1.1.1.1.2 attemptId
      | _ => simp
  · next event shown => exact unnumbered (by rw [shown]; rfl) (by cases series <;> rfl)
  · next event shown =>
      have kept : (validateCommandProjection event record source indexes).indexes.latestOrdinal
          series = { indexes with
            executorCommandProjectionOrdinals := indexes.executorCommandProjectionOrdinals.insert
              (event.plannedAttempt.attemptId, event.commandOrdinal)
              event.projectionOrdinal }.latestOrdinal series := by
        unfold validateCommandProjection
        dsimp only
        split
        · split <;> cases series <;> rfl
        · rfl
      simp only [validateCommandProjection, List.append_eq_nil_iff, issueUnless_eq_nil,
        decide_eq_true_eq] at accepted
      simp only [Advances, kept, inSeries, shown, executorOrdinal?]
      cases series with
      | projections attemptId commandOrdinal =>
          simpa using ordinal_insert accepted.1.2 (attemptId, commandOrdinal)
      | _ => simp
  · next event shown =>
      refine unnumbered (by rw [shown]; rfl) ?_
      unfold validateCommandResponse
      dsimp only
      split <;> cases series <;> rfl
  · next event shown => exact unnumbered (by rw [shown]; rfl) rfl
  · next event shown =>
      simp only [Advances, inSeries, shown, executorOrdinal?, validateStateObservation,
        List.append_eq_nil_iff, issueUnless_eq_nil, decide_eq_true_eq] at accepted ⊢
      cases series with
      | observations attemptId =>
          simpa using ordinal_insert accepted.1.2 attemptId
      | _ => simp
  · next event shown =>
      simp only [Advances, inSeries, shown, executorOrdinal?, validateExecutorWorkReport,
        List.append_eq_nil_iff, issueUnless_eq_nil, decide_eq_true_eq] at accepted ⊢
      have outcome (next : ExecutorIndexes) :
          (recordExecutorWorkReportOutcome event next).latestOrdinal series =
            next.latestOrdinal series := by
        unfold recordExecutorWorkReportOutcome
        dsimp only
        split <;> cases series <;> rfl
      rw [outcome]
      cases series with
      | reports attemptId =>
          simpa using ordinal_insert accepted.1.1.1.1.1.2 attemptId
      | _ => simp
  · next unintended _ projected _ _ observed reported =>
      refine unnumbered ?_ rfl
      unfold executorOrdinal?
      split <;> simp_all

end

/-- What holds behind accepted records, with what keeps the records of executors in order. -/
structure SafetyTracks (runId : RunId) (before : List JournalRecord) (indexes : KernelIndexes) :
    Prop extends KernelTracks runId before indexes where
  ordinals : ∀ series, indexes.executor.latestOrdinal series = before.countP (inSeries series)
  terminated : ∀ earlier ∈ before, ∀ attemptId, terminatedAttempt? earlier.event = some attemptId →
    attemptId ∈ indexes.executor.terminalExecutorAttempts
  latest : ∀ intended command, Unsettled before command.plannedAttempt intended command →
    Outstanding before command.plannedAttempt intended command

theorem safetyTracks_empty (runId : RunId) : SafetyTracks runId [] emptyKernel where
  toKernelTracks := kernelTracks_empty runId
  ordinals series := by cases series <;> rfl
  terminated _ member := by cases member
  latest _ _ unsettled := by cases unsettled.member

section

variable {runId : RunId} {source : JournalHistorySource} {before : List JournalRecord}
  {record : JournalRecord} {indexes : KernelIndexes}

theorem SafetyTracks.latest_concat (tracks : SafetyTracks runId before indexes)
    {next : KernelIndexes} (tracks' : KernelTracks runId (before ++ [record]) next)
    (idle : ∀ event, record.event = .plannedAttemptExecutorCommandIntended event →
      indexes.executor.unsettledExecutorCommands.lookup event.plannedAttempt.attemptId = none)
    (redelivery : ∀ event, record.event = .plannedAttemptExecutorResumeRedeliveryIntended event →
      next.executor.unsettledExecutorCommands.lookup event.plannedAttempt.attemptId =
        some event.commandOrdinal) {intended : JournalRecord}
    {command : PlannedAttemptExecutorCommandIntended}
    (unsettled : Unsettled (before ++ [record]) command.plannedAttempt intended command) :
    Outstanding (before ++ [record]) command.plannedAttempt intended command := by
  have increasing := tracks'.canonical.chronological.increasing
  obtain ⟨shown, -, -⟩ := commandIntended?_eq_some.mp unsettled.intends
  refine ⟨unsettled.member, unsettled.intends, ?_, unsettled.unanswered⟩
  rcases Log.mem_concat.mp unsettled.member with inside | here
  · by_cases redelivered :
      redelivers command.plannedAttempt command.ordinal record.event = true
    · unfold redelivers at redelivered
      split at redelivered
      · next event delivers =>
          simp only [Bool.and_eq_true, decide_eq_true_eq, plannedTaskAttemptEquivalence]
            at redelivered
          have owed := redelivery event delivers
          rw [redelivered.1, redelivered.2, tracks'.executor.unsettled_of_responsible
            (tracks'.executor.commanded intended unsettled.member command shown)] at owed
          obtain ⟨resume, found, named⟩ := Option.map_eq_some_iff.mp owed
          obtain ⟨latest, outstanding⟩ := ((Presents.raw _).latestUnsettled_eq_some increasing
            (correlated_of_justified tracks'.lawful)).mp found
          obtain ⟨resumes, -, same⟩ := commandIntended?_eq_some.mp outstanding.intends
          have one := tracks'.canonical.eq_of_key unsettled.member outstanding.member (by
            rw [shown, resumes, WorkflowJournalEvent.expectedKey,
              WorkflowJournalEvent.expectedKey, same, named])
          rw [one]
          exact outstanding.latest
      · cases redelivered
    · have pending : Unsettled before command.plannedAttempt intended command := by
        refine ⟨inside, unsettled.intends, fun answer member settles behind => ?_⟩
        obtain ⟨delivery, listed, delivers, reaches⟩ :=
          unsettled.unanswered answer (List.mem_append_left _ member) settles behind
        rcases Log.mem_concat.mp listed with earlier | here
        · exact ⟨delivery, earlier, delivers, reaches⟩
        · rw [here] at delivers
          exact absurd delivers redelivered
      have outstanding := tracks.latest _ _ pending
      intro other listed also
      rcases Log.mem_concat.mp listed with earlier | here
      · exact outstanding.latest other earlier also
      · obtain ⟨event, also⟩ := Option.isSome_iff_exists.mp also
        obtain ⟨commands, -, same⟩ := commandIntended?_eq_some.mp also
        rw [here] at commands
        have free := idle event commands
        have found : unsettledCommand before command.plannedAttempt = some command :=
          ((Presents.raw before).latestUnsettled_eq_some tracks.canonical.chronological.increasing
            (correlated_of_justified tracks.lawful)).mpr ⟨intended, outstanding⟩
        rw [same, tracks.executor.unsettled_of_responsible
          (tracks.executor.commanded intended inside command shown), found] at free
        cases free
  · intro other listed _
    rw [here]
    exact position_le_of_getLast? increasing (by simp) listed

theorem SafetyTracks.outstanding (tracks : SafetyTracks runId before indexes)
    {plannedAttempt : PlannedTaskAttempt} (planned : Planned before plannedAttempt)
    {intended : JournalRecord} {command : PlannedAttemptExecutorCommandIntended}
    (unsettled : Unsettled before plannedAttempt intended command) :
    Outstanding before plannedAttempt intended command := by
  obtain ⟨shown, -, same⟩ := commandIntended?_eq_some.mp unsettled.intends
  obtain ⟨responsibility, known, own⟩ := responsibleFor_iff.mp
    (tracks.executor.commanded intended unsettled.member command shown)
  have one := tracks.fold.plan_unique planned (tracks.executor.planned _ _ known)
    (by rw [own, same])
  rw [one.trans own] at unsettled ⊢
  exact tracks.latest _ _ unsettled

theorem SafetyTracks.step (tracks : SafetyTracks runId before indexes)
    (presents : Presents (priorRecords record.position source) before)
    (accepted : (validateKernelRecord record before.length runId source indexes).issues = []) :
    SafetyTracks runId (before ++ [record])
      (validateKernelRecord record before.length runId source indexes).indexes := by
  have tracks' := tracks.toKernelTracks.step presents accepted
  obtain ⟨-, -, worked, kept⟩ := validateKernelRecord_accepted accepted
  rw [kept] at tracks' ⊢
  refine ⟨tracks', fun series => ?_, fun earlier member attemptId ends => ?_,
    fun intended command => tracks.latest_concat tracks' (fun event shown => ?_)
      fun event shown => ?_⟩
  · rw [(advances_validateExecutorWork worked series).2, tracks.ordinals, List.countP_append,
      List.countP_singleton]
  · refine mem_terminal_validateExecutorWork.mpr ?_
    rcases Log.mem_concat.mp member with inside | here
    · exact .inl (tracks.terminated earlier inside attemptId ends)
    · rw [here] at ends
      exact .inr ends
  · unfold validateExecutorWork at worked
    simp only [shown, validateExecutorCommandIntent, List.append_eq_nil_iff, issueUnless_eq_nil,
      Option.isNone_iff_eq_none] at worked
    exact worked.1.2
  · simp [validateExecutorWork, shown, validateExecutorResumeRedeliveryIntent]

theorem mem_of_exactCausalResumeCommand {rest : List JournalRecord}
    (canonical : Canonical runId (before ++ record :: rest))
    (shows : Presents source (before ++ record :: rest)) {evidenceAt acceptedAt : JournalPosition}
    (behind : evidenceAt < record.position) {correlation : PlannedAttemptExecutorCorrelation}
    {ordinal : Nat}
    (caused : (exactCausalResumeCommand source correlation ordinal evidenceAt
      acceptedAt).isSome = true) : ResumedBehind before acceptedAt correlation.attemptId := by
  obtain ⟨resume, found⟩ := Option.isSome_iff_exists.mp caused
  have selected : resume ∈ before ++ record :: rest ∧
      isMatchingCausalResume evidenceAt acceptedAt correlation ordinal resume = true := by
    unfold exactCausalResumeCommand at found
    cases shows with
    | raw => exact mem_of_findLast found
    | indexed chronological shows =>
        obtain ⟨found, selected⟩ := Option.filter_eq_some_iff.mp found
        rw [(Presents.indexed chronological shows).recordByKey] at found
        exact ⟨List.mem_of_find?_eq_some found, selected⟩
  obtain ⟨member, selected⟩ := selected
  unfold isMatchingCausalResume at selected
  split at selected
  · next command shown =>
      simp only [Bool.and_eq_true, decide_eq_true_eq] at selected
      obtain ⟨⟨⟨⟨⟨earlier, later⟩, resumes⟩, -⟩, -⟩, same⟩ := selected
      exact ⟨resume, mem_before_of_position canonical member (Nat.lt_trans earlier behind), later,
        command, shown, resumes, same⟩
  · cases selected

theorem resumed_of_accepted (presents : Presents (priorRecords record.position source) before)
    {rest : List JournalRecord} (canonical : Canonical runId (before ++ record :: rest))
    (shows : Presents source (before ++ record :: rest))
    {event : PlannedAttemptExecutorWorkReported} {executor : ExecutorIndexes}
    (worked : (validateExecutorWorkReport event record source executor).issues = [])
    (executing : event.report.isExecuting = true) {safe : JournalRecord}
    (last : LastSuspension before event.report.correlation.attemptId safe) :
    ResumedBehind before safe.position event.report.correlation.attemptId := by
  have increasing := List.pairwise_append.mp canonical.chronological.increasing
  obtain ⟨accepted, shown, suspended, same⟩ := last.suspended
  have prior : lastJournalRecordForAttemptKind event.report.correlation.attemptId
      .plannedAttemptExecutorWorkReported (priorRecords record.position source) = some safe := by
    rw [presents.lastRecordForAttemptKind _ (by decide), findLast_eq_some_iff _ increasing.1]
    have own := (mem_attemptIdsOf_of_executor (by rw [shown]; rfl)).mpr same.symm
    refine ⟨last.member, by simp [own, shown, WorkflowJournalEvent.tag],
      fun other listed selected => last.latest other listed ?_⟩
    rw [Bool.and_eq_true, decide_eq_true_eq, decide_eq_true_eq] at selected
    obtain ⟨again, also⟩ : ∃ again, other.event = .plannedAttemptExecutorWorkReported again := by
      cases also : other.event <;> simp_all [WorkflowJournalEvent.tag]
    have named := (mem_attemptIdsOf_of_executor (by rw [also]; rfl)).mp selected.2
    simp [inSeries, executorOrdinal?, also, named]
  simp only [validateExecutorWorkReport, List.append_eq_nil_iff, issueUnless_eq_nil, prior]
    at worked
  obtain ⟨_, observed, _⟩ := Option.any_eq_true _ _ |>.mp worked.1.1.1.1.2
  obtain ⟨evidence, found, reports⟩ := Option.bind_eq_some_iff.mp observed
  have behind := increasing.2.2 evidence (presents.reported_of_evidence found reports).1 record
    (by simp)
  have caused := worked.1.1.2
  rw [found] at caused
  simp only [validateSafeToExecutingCausality, Option.toList_some, List.flatMap_cons,
    List.flatMap_nil, List.append_nil, shown, acceptedReport?, Option.any_some, suspended,
    executing, Bool.and_self, if_true, issueUnless_eq_nil] at caused
  obtain ⟨ordinal, -, caused⟩ := Option.any_eq_true _ _ |>.mp caused
  exact mem_of_exactCausalResumeCommand canonical shows behind caused

end

section

variable {replay : HistoryReplay} {runId : RunId} {records before after : List JournalRecord}
  {record : JournalRecord}

theorem KernelReplayed.safety_left (replayed : KernelReplayed replay runId (before ++ after)) :
    SafetyTracks runId before
      (replayKernelFrom replay runId (before ++ after) 0 before emptyKernel).indexes :=
  replayed.invariant (safetyTracks_empty runId)
    fun _ _ _ _ presents tracks accepted => tracks.step presents accepted

theorem KernelReplayed.safe (replayed : KernelReplayed replay runId (before ++ record :: after)) :
    SafeExecutorRecord before record := by
  have tracks := replayed.safety_left
  have canonical := replayed.accepted.canonical
  have presents := canonical.presents_prior replay
  obtain ⟨rest, through, shows⟩ := canonical.presents_source replay
  rw [KernelReplayed, replayKernel, replayKernelFrom_append] at replayed
  simp only [replayKernelFrom, List.append_eq_nil_iff, Nat.zero_add] at replayed
  obtain ⟨checked, -, worked, -⟩ := validateKernelRecord_accepted replayed.2.1
  have law : ExecutorLaw runId before record :=
    (Log.justified_concat.mp (tracks.toKernelTracks.step presents replayed.2.1).lawful).2
  constructor
  · intro series ordinal numbered
    rw [← tracks.ordinals]
    exact (advances_validateExecutorWork worked series).1 ordinal numbered
  · intro attemptId begins
    unfold beginsAttempt at begins
    split at begins
    · next event shown =>
        rw [Bool.and_eq_true, decide_eq_true_eq, decide_eq_true_eq] at begins
        rw [← begins.2]
        exact (law.commanded event shown).once begins.1
    · cases begins
  · intro attemptId numbered earlier member ends
    have ended := tracks.terminated earlier member attemptId ends
    unfold validateExecutorWork at worked
    unfold inSeries executorOrdinal? at numbered
    split at numbered
    · next event shown =>
        simp only [shown, validateExecutorCommandIntent, List.append_eq_nil_iff,
          issueUnless_eq_nil] at worked
        simp_all
    · simp at numbered
    · simp at numbered
    · next event shown =>
        simp only [shown, validateExecutorWorkReport, List.append_eq_nil_iff,
          issueUnless_eq_nil] at worked
        simp_all
    · simp at numbered
  · intro correlation executor earlier member ends
    have cutoffs := (List.append_eq_nil_iff.mp checked.executor).1
    simp only [executor, List.append_eq_nil_iff, issueUnless_eq_nil, Bool.not_eq_true',
      decide_eq_false_iff_not] at cutoffs
    rcases ends with stopped | replaced
    · obtain ⟨ended, stopped, same⟩ := Option.map_eq_some_iff.mp stopped
      exact cutoffs.1 ((tracks.fold.abandoned _).mpr ⟨earlier, member, ended, stopped, same⟩)
    · simp only [Option.map_eq_some_iff, ← or_and_right, ← exists_or] at replaced
      obtain ⟨ended, replaced, same⟩ := replaced
      exact cutoffs.2 ((tracks.fold.superseded _).mpr ⟨earlier, member, ended, replaced, same⟩)
  · intro event reported executing safe last
    unfold validateExecutorWork at worked
    rw [reported] at worked
    exact resumed_of_accepted presents through shows worked executing last

/-- In every accepted history the executor records are safe, and a plan owes one answer at most. -/
theorem executorProtocol_safe (replayed : KernelReplayed replay runId records) :
    Log.Justified SafeExecutorRecord records ∧ ∀ before, before <+: records →
      ∀ plannedAttempt, Planned before plannedAttempt → ∀ intended command other command',
        Unsettled before plannedAttempt intended command →
          Unsettled before plannedAttempt other command' → intended = other := by
  refine ⟨fun before record after split => ?_, ?_⟩
  · subst split
    exact replayed.safe
  · rintro before ⟨after, rfl⟩ plannedAttempt planned
    have tracks := replayed.safety_left
    intro intended command other command' unsettled unsettled'
    have here := tracks.outstanding planned unsettled
    have there := tracks.outstanding planned unsettled'
    exact tracks.canonical.chronological.increasing.eq_of_position here.member there.member
      (Nat.le_antisymm (there.latest _ here.member (by rw [here.intends]; rfl))
        (here.latest _ there.member (by rw [there.intends]; rfl)))

end

namespace CancelledRun

open EstablishedRun

/-- Work that was suspended runs again. -/
theorem executorProtocol_safe_resumed : Log.Justified SafeExecutorRecord
    (recordsFrom (suspendedEvents ++
      [command 3 .resume, response 3 executing, reported 3 executing])) :=
  (@executorProtocol_safe .raw runId _ (by decide +kernel)).1

end CancelledRun

end Dalph
