import Dalph.Coordination.Reconstruction.KernelRun
import Dalph.Workflow.CurrentEvidence

/-!
# Begins that did not cross

The first exact report about an attempt answers its one Begin.  A projection that Begin did not cross
needs that Begin unanswered, so no report stands before it, and it hides none from the index.
-/

namespace Dalph

section

variable {runId : RunId} {records before after : List JournalRecord} {record : JournalRecord}
  {attemptId : AttemptId} {plannedAttempt : PlannedTaskAttempt}

theorem exists_first {Item : Type} {items : List Item} {test : Item → Bool} {item : Item}
    (member : item ∈ items) (selected : test item = true) :
    ∃ before first after, items = before ++ first :: after ∧ test first = true ∧
      ∀ earlier ∈ before, test earlier = false := by
  have found : (items.find? test).isSome = true := by
    rw [List.find?_isSome]
    exact ⟨item, member, selected⟩
  obtain ⟨first, found⟩ := Option.isSome_iff_exists.mp found
  obtain ⟨selects, before, after, split, none⟩ := List.find?_eq_some_iff_append.mp found
  exact ⟨before, first, after, split, selects, fun earlier listed => by simpa using none earlier listed⟩

theorem concernsAttempt_unique {other : AttemptId}
    (concerned : concernsAttempt attemptId record = true)
    (also : concernsAttempt other record = true) : other = attemptId := by
  obtain ⟨correlation, executor, rfl⟩ := concernsAttempt_iff.mp concerned
  obtain ⟨correlation', executor', rfl⟩ := concernsAttempt_iff.mp also
  rw [executor, Option.some.injEq] at executor'
  rw [executor']

theorem ExecutorLaw.exactCorrelation (law : ExecutorLaw runId before record)
    (concerned : concernsAttempt plannedAttempt.attemptId record = true)
    (own : plannedAttempt.runId = runId) {report : PlannedAttemptExecutorReport}
    {origin : PlannedAttemptExecutorEvidenceSource}
    (reported : reportOf record.event = some (report, origin)) :
    exactCorrelation report plannedAttempt = true := by
  rw [Dalph.exactCorrelation, Bool.and_eq_true, decide_eq_true_eq, decide_eq_true_eq]
  exact ⟨(law.reported report origin reported).trans own.symm,
    concernsAttempt_unique concerned (law.correlated report origin reported)⟩

theorem executor_of_named {ordinal : Nat}
    (names : namedCommand? record.event = some (plannedAttempt, ordinal)) :
    record.event.executorCorrelation? = some (plannedAttemptExecutorCorrelation plannedAttempt) := by
  unfold namedCommand? at names
  split at names
  · next event shown =>
      cases names
      rw [shown]
      rfl
  · next event shown =>
      cases names
      rw [shown]
      rfl
  · next event shown =>
      cases names
      rw [shown]
      rfl
  · cases names

theorem ExecutorLaw.settles (law : ExecutorLaw runId before record) {ordinal : Nat}
    (names : namedCommand? record.event = some (plannedAttempt, ordinal))
    (reported : (reportOf record.event).isSome = true) :
    settlesCommand plannedAttempt ordinal record.event = true := by
  have executor := executor_of_named names
  have own : plannedAttempt.runId = runId := law.owned _ executor
  have concerned : concernsAttempt plannedAttempt.attemptId record = true :=
    concernsAttempt_iff.mpr ⟨_, executor, rfl⟩
  obtain ⟨⟨report, origin⟩, reported⟩ := Option.isSome_iff_exists.mp reported
  have exact_ := law.exactCorrelation concerned own reported
  unfold namedCommand? at names
  unfold reportOf at reported
  split at names
  · next event shown =>
      cases names
      rw [shown] at reported ⊢
      dsimp only at reported
      split at reported
      · next given observed =>
          cases reported
          simp [settlesCommand, observed, exact_]
      · cases reported
  · next event shown =>
      cases names
      rw [shown] at reported ⊢
      cases reported
      simp [settlesCommand, exact_]
  · next event shown =>
      rw [shown] at reported
      cases reported
  · cases names

theorem begin_of_first_report (lawful : Log.Justified (ExecutorLaw runId) records)
    (increasing : InOrder records)
    (split : records = before ++ record :: after) (reports : reportsOn attemptId record = true)
    (first : ∀ earlier ∈ before, reportsOn attemptId earlier = false) :
    ∃ plannedAttempt intended command, Outstanding before plannedAttempt intended command ∧
      plannedAttempt.attemptId = attemptId ∧ command.command = .begin ∧
        settlesCommand plannedAttempt command.ordinal record.event = true := by
  have law := lawful before record after split
  have reported := reports
  rw [reportsOn, Bool.and_eq_true] at reported
  obtain ⟨reported, concerned⟩ := reported
  cases names : namedCommand? record.event with
  | none =>
      obtain ⟨earlier, member, also⟩ := law.caused attemptId reports names
      rw [first earlier member] at also
      cases also
  | some named =>
      obtain ⟨plannedAttempt, ordinal⟩ := named
      obtain ⟨command, unanswered, rfl⟩ := law.named plannedAttempt ordinal names
      rw [split] at lawful increasing
      obtain ⟨intended, outstanding⟩ := ((Presents.raw before).latestUnsettled_eq_some
        (List.pairwise_append.mp increasing).1 (correlated_of_justified lawful.left)).mp unanswered
      have same : plannedAttempt.attemptId = attemptId :=
        concernsAttempt_unique concerned (concernsAttempt_iff.mpr ⟨_, executor_of_named names, rfl⟩)
      refine ⟨plannedAttempt, intended, command, outstanding, same, ?_, law.settles names reported⟩
      by_contra other
      obtain ⟨shown, _, about⟩ := commandIntended?_eq_some.mp outstanding.intends
      obtain ⟨start, rest, shape⟩ := List.append_of_mem outstanding.member
      obtain ⟨accepting, report, accepted, _⟩ :=
        ((lawful.left start intended rest shape).commanded command shown).rests other
      have accepts := acceptsReportFor_iff.mpr ⟨report, accepted.accepts, accepted.correlates⟩
      have earlier := first accepting (by rw [shape]; exact List.mem_append_left _ accepted.member)
      have concerned' := concernsAttempt_of_accepts accepts
      rw [about, same] at concerned'
      rw [reportsOn, (executor_of_accepts accepted.accepts).2, concerned'] at earlier
      cases earlier

theorem beginsAttempt_iff {event : WorkflowJournalEvent} : beginsAttempt attemptId event = true ↔
    ∃ command, event = .plannedAttemptExecutorCommandIntended command ∧ command.command = .begin ∧
      command.plannedAttempt.attemptId = attemptId := by
  constructor
  · intro begins
    unfold beginsAttempt at begins
    split at begins
    · next command =>
        rw [Bool.and_eq_true, decide_eq_true_eq, decide_eq_true_eq] at begins
        exact ⟨command, rfl, begins⟩
    · cases begins
  · rintro ⟨command, rfl, begins, about⟩
    simp [beginsAttempt, begins, about]

theorem begin_unique (lawful : Log.Justified (ExecutorLaw runId) records) {other : JournalRecord}
    (member : record ∈ records) (begins : beginsAttempt attemptId record.event = true)
    (listed : other ∈ records) (also : beginsAttempt attemptId other.event = true) :
    record = other := by
  refine @Log.Justified.eq_of_clash _ _ (fun earlier later => ∃ attemptId,
    beginsAttempt attemptId earlier.event = true ∧ beginsAttempt attemptId later.event = true)
    records lawful ?_ ?_ record other member listed ⟨attemptId, begins, also⟩
  · rintro before entry _ law earlier inside ⟨about, first, second⟩
    obtain ⟨command, intended, begins, rfl⟩ := beginsAttempt_iff.mp second
    rw [(law.commanded command intended).once begins earlier inside] at first
    cases first
  · rintro left right ⟨about, first, second⟩
    exact ⟨about, second, first⟩

theorem uncrossed_of_shows (uncrossed : showsUncrossedBegin record.event = true) :
    ∃ event proofId, record.event = .plannedAttemptExecutorCommandProjectionObserved event ∧
      event.observation = .executorBeginNotCrossed proofId := by
  unfold showsUncrossedBegin at uncrossed
  split at uncrossed
  · next event shown =>
      split at uncrossed
      · next proofId observed => exact ⟨event, proofId, shown, observed⟩
      · cases uncrossed
  · cases uncrossed

theorem settlesCommand_congr {other : PlannedTaskAttempt} {ordinal : Nat}
    {event : WorkflowJournalEvent} (sameRun : plannedAttempt.runId = other.runId)
    (sameAttempt : plannedAttempt.attemptId = other.attemptId) :
    settlesCommand plannedAttempt ordinal event = settlesCommand other ordinal event := by
  unfold settlesCommand exactCorrelation
  rw [sameRun, sameAttempt]

section

variable (lawful : Log.Justified (ExecutorLaw runId) records)
include lawful

theorem resume_of_redelivers (canonical : Canonical runId records)
    {intended delivery : JournalRecord} {command : PlannedAttemptExecutorCommandIntended}
    (member : intended ∈ records)
    (intends : commandIntended? plannedAttempt intended.event = some command)
    (listed : delivery ∈ records)
    (redelivered : redelivers plannedAttempt command.ordinal delivery.event = true) :
    command.command = .resume := by
  unfold redelivers at redelivered
  split at redelivered
  · next event shown =>
      simp only [Bool.and_eq_true, decide_eq_true_eq, plannedTaskAttemptEquivalence] at redelivered
      obtain ⟨ordinal, samePlan⟩ := redelivered
      obtain ⟨start, rest, rfl⟩ := List.append_of_mem listed
      obtain ⟨resumed, resume, law⟩ := (lawful start delivery rest rfl).redelivered event shown
      obtain ⟨resumes, about, _⟩ := concernsAttempt_of_exactCommand law.intends
      obtain ⟨intends, _, sameAttempt⟩ := commandIntended?_eq_some.mp intends
      have one : intended = resumed := by
        refine canonical.eq_of_key member (List.mem_append_left _ law.member) ?_
        have named : resume.ordinal = event.commandOrdinal := law.named
        rw [intends, resumes, WorkflowJournalEvent.expectedKey, WorkflowJournalEvent.expectedKey,
          sameAttempt, about, samePlan, named, ordinal]
      rw [one, resumes] at intends
      rw [← WorkflowJournalEvent.plannedAttemptExecutorCommandIntended.inj intends]
      exact law.resumes
  · cases redelivered

theorem unreported_of_uncrossed (canonical : Canonical runId records)
    (split : records = before ++ record :: after)
    (uncrossed : showsUncrossedBegin record.event = true)
    (concerned : concernsAttempt attemptId record = true) :
    ∀ earlier ∈ before, reportsOn attemptId earlier = false := by
  intro earlier member
  by_contra reports
  rw [Bool.not_eq_false] at reports
  obtain ⟨event, proofId, shown, observed⟩ := uncrossed_of_shows uncrossed
  obtain ⟨command, unanswered, begins⟩ :=
    (lawful before record after split).uncrossed event proofId shown observed
  rw [split] at lawful canonical
  have increasing := canonical.left.chronological.increasing
  obtain ⟨intended, outstanding⟩ := ((Presents.raw before).latestUnsettled_eq_some increasing
    (correlated_of_justified lawful.left)).mp unanswered
  obtain ⟨intends, sameRun, sameAttempt⟩ := commandIntended?_eq_some.mp outstanding.intends
  have about : event.plannedAttempt.attemptId = attemptId :=
    concernsAttempt_unique concerned (concernsAttempt_iff.mpr ⟨_, by rw [shown]; rfl, rfl⟩)
  obtain ⟨start, first, rest, shape, answers, unreported⟩ := exists_first member reports
  obtain ⟨plannedAttempt, intended', command', outstanding', about', begins', settles⟩ :=
    begin_of_first_report lawful.left increasing shape answers unreported
  obtain ⟨intends', sameRun', sameAttempt'⟩ := commandIntended?_eq_some.mp outstanding'.intends
  have inside : intended' ∈ before := by
    rw [shape]
    exact List.mem_append_left _ outstanding'.member
  have one : intended = intended' := begin_unique lawful.left outstanding.member
    (beginsAttempt_iff.mpr ⟨command, intends, begins, sameAttempt.trans about⟩) inside
    (beginsAttempt_iff.mpr ⟨command', intends', begins', sameAttempt'.trans about'⟩)
  rw [one, intends'] at intends
  cases intends
  rw [settlesCommand_congr (sameRun'.symm.trans sameRun) (about'.trans about.symm)] at settles
  have behind : intended.position < first.position := by
    rw [shape] at increasing
    rw [one]
    exact (List.pairwise_append.mp increasing).2.2 intended' outstanding'.member first
      List.mem_cons_self
  obtain ⟨delivery, listed, redelivered, _⟩ := outstanding.unanswered first
    (by rw [shape]; exact List.mem_append_right _ List.mem_cons_self) settles behind
  have resumes := resume_of_redelivers lawful.left canonical.left outstanding.member
    outstanding.intends listed redelivered
  rw [begins] at resumes
  cases resumes

theorem orderedEvidence_of_lawful (canonical : Canonical runId records)
    (own : plannedAttempt.runId = runId) :
    OrderedEvidence records plannedAttempt where
  increasing := canonical.chronological.increasing
  concerned := by
    intro record member found
    obtain ⟨evidence, found⟩ := Option.isSome_iff_exists.mp found
    exact concernsAttempt_of_evidence (correlated_of_justified lawful record member) found
  exact_ := by
    intro record member concerned reported
    obtain ⟨before, _, law⟩ := lawful.admissible_of_mem member
    obtain ⟨⟨report, origin⟩, reported⟩ := Option.isSome_iff_exists.mp reported
    simp [evidenceFromRecord, reported, law.exactCorrelation concerned own reported]
  issues := by
    intro record member concerned shows
    obtain ⟨before, _, law⟩ := lawful.admissible_of_mem member
    obtain ⟨correlation, executor, about⟩ := concernsAttempt_iff.mp concerned
    have sameRun := (law.owned correlation executor).trans own.symm
    rw [showsIssueFor, shows, Bool.true_and]
    unfold projectionShowsIssue at shows
    split at shows
    · next event observed =>
        rw [observed] at executor ⊢
        cases executor
        simpa [projectedAttempt?, plannedAttemptExecutorCorrelation] using ⟨sameRun, about⟩
    · next event observed =>
        rw [observed] at executor ⊢
        cases executor
        simpa [projectedAttempt?, plannedAttemptExecutorCorrelation] using ⟨sameRun, about⟩
    · cases shows
  uncrossed := by
    intro record member concerned uncrossed other listed found
    obtain ⟨evidence, found⟩ := Option.isSome_iff_exists.mp found
    obtain ⟨before, after, split⟩ := List.append_of_mem member
    have reports : reportsOn plannedAttempt.attemptId other = true := by
      obtain ⟨reported, given, _⟩ := Option.bind_eq_some_iff.mp found
      rw [reportsOn, given,
        concernsAttempt_of_evidence (correlated_of_justified lawful other listed) found]
      rfl
    have increasing := canonical.chronological.increasing
    rw [split] at listed increasing
    rcases List.mem_append.mp listed with earlier | later
    · rw [unreported_of_uncrossed lawful canonical split uncrossed concerned other earlier] at reports
      cases reports
    · rcases List.mem_cons.mp later with here | later
      · obtain ⟨event, proofId, shown, observed⟩ := uncrossed_of_shows uncrossed
        rw [here, reportsOn, shown, reportOf, observed] at reports
        cases reports
      · exact (List.pairwise_cons.mp (List.pairwise_append.mp increasing).2.1).1 other later

theorem unreported_of_foreign (foreign : plannedAttempt.runId ≠ runId) :
    ∀ record ∈ records, evidenceFromRecord record plannedAttempt = none := by
  intro record member
  obtain ⟨before, _, law⟩ := lawful.admissible_of_mem member
  rw [evidenceFromRecord]
  cases reported : reportOf record.event with
  | none => rfl
  | some given =>
      have apart : given.1.correlation.runId ≠ plannedAttempt.runId := by
        rw [law.reported given.1 given.2 reported]
        exact foreign.symm
      simp [exactCorrelation, apart]

end

/-- Current executor evidence of an accepted history, behind any position, is the same from the index
and from the list of its records. -/
theorem latestPlannedAttemptExecutorEvidence_agree {replay : HistoryReplay}
    (replayed : KernelReplayed replay runId records) (plannedAttempt : PlannedTaskAttempt)
    (after : Option JournalPosition) :
    latestPlannedAttemptExecutorEvidence (.indexed (journalEvidenceFrom records)) plannedAttempt
        after =
      latestPlannedAttemptExecutorEvidence (.raw records) plannedAttempt after := by
  have tracks := replayed.tracks
  have presents := presents_journalEvidenceFrom tracks.canonical.chronological
  rw [latestPlannedAttemptExecutorEvidence, latestPlannedAttemptExecutorEvidence]
  by_cases own : plannedAttempt.runId = runId
  · exact deriveLatest_eq (orderedEvidence_of_lawful tracks.lawful tracks.canonical own) presents
  · have unreported : ∀ record ∈ records, exactAfter plannedAttempt after record = none := by
      intro record member
      rw [exactAfter, unreported_of_foreign tracks.lawful own record member, ite_self]
    rw [indexed_eq_none presents tracks.canonical.chronological.increasing unreported,
      listed_eq_none unreported]

end

namespace HiddenProjection

open EstablishedRun

def records : List JournalRecord :=
  recordsFrom (events ++ [command 2 .suspend,
    .plannedAttemptExecutorCommandProjectionObserved ⟨2, .executorStateUnreadable, attempt, 1⟩,
    .plannedAttemptExecutorCommandProjectionObserved ⟨2, .exactExecutorReport suspended, attempt, 2⟩])

/-- The hidden projection changes nothing about the suspension. -/
theorem latestPlannedAttemptExecutorEvidence_agree_hidden :
    latestPlannedAttemptExecutorEvidence (.indexed (journalEvidenceFrom records)) attempt (some 14) =
        latestPlannedAttemptExecutorEvidence (.raw records) attempt (some 14) ∧
      (latestPlannedAttemptExecutorEvidence (.raw records) attempt (some 14)).map (·.report) =
        some suspended :=
  ⟨@latestPlannedAttemptExecutorEvidence_agree runId records .raw (by decide +kernel) attempt
    (some 14), by decide +kernel⟩

end HiddenProjection

end Dalph
