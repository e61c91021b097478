import Dalph.Coordination.Reconstruction.ChoiceRules
import Dalph.Coordination.Reconstruction.ForwardWork

/-!
# Endings of an attempt

Four events end an attempt, each with checks of its own.  Together they exclude every second ending
of an attempt, except between the abandonment that follows a cancellation and either an abandonment
by Stop or a replacement by result recovery.
-/

namespace Dalph

def endedAttempt? : WorkflowJournalEvent → Option PlannedTaskAttempt
  | .attemptImplementationAbandoned event => some event.subject.plannedAttempt
  | .cancelledAttemptImplementationAbandoned event => some event.plannedAttempt
  | .plannedAttemptReplaced event => some event.subject.plannedAttempt
  | .resultRecoveryAttemptReplaced event => some event.subject.plannedAttempt
  | _ => none

section

variable {source : JournalHistorySource} {before : List JournalRecord} {event : WorkflowJournalEvent}

theorem mem_of_attemptRecordsUnderKey (presents : Presents source before) {key : JournalRecordKey}
    {attemptId : AttemptId} {record : JournalRecord}
    (listed : record ∈ attemptRecordsUnderKey key attemptId source) : record ∈ before := by
  cases presents with
  | raw => exact List.mem_of_mem_filter listed
  | indexed chronological shows =>
      rw [attemptRecordsUnderKey, (Presents.indexed chronological shows).recordByKey,
        Option.mem_toList] at listed
      exact List.mem_of_find?_eq_some listed

def ChoiceApplied (records : List JournalRecord) (choice : AttemptChoice) (requestId : RunRequestId)
    (subject : AttemptChoiceSubject) : Prop :=
  ∃ record ∈ records, choiceOf? record.event = some ⟨choice, requestId, subject⟩

theorem choice_of_appliesChoice {choice : AttemptChoice} {requestId : RunRequestId}
    {subject : AttemptChoiceSubject} (applies : appliesChoice choice requestId subject event = true) :
    choiceOf? event = some ⟨choice, requestId, subject⟩ := by
  unfold appliesChoice at applies
  split at applies
  · next applied =>
      simp only [Bool.and_eq_true, decide_eq_true_iff, sameAttemptChoiceSubject_iff] at applies
      obtain ⟨⟨rfl, rfl⟩, rfl⟩ := applies
      rfl
  · cases applies

theorem applied_of_matchingAppliedStop (presents : Presents source before)
    {requestId : RunRequestId} {subject : AttemptChoiceSubject}
    (found : (matchingAppliedStop requestId subject source).isSome = true) :
    ChoiceApplied before .stopTaskImplementation requestId subject := by
  obtain ⟨record, found⟩ := Option.isSome_iff_exists.mp found
  exact ⟨record, mem_of_attemptRecordsUnderKey presents (List.mem_of_find?_eq_some found),
    choice_of_appliesChoice (by simpa using List.find?_some found)⟩

end

def HistoryReplay.prior (replay : HistoryReplay) (before after : List JournalRecord)
    (record : JournalRecord) : JournalHistorySource :=
  priorRecords record.position (replay.source (before ++ record :: after) before.length)

theorem sameKind_prior (replay : HistoryReplay) (before after before' after' : List JournalRecord)
    (record record' : JournalRecord) :
    SameKind (replay.prior before after record) (replay.prior before' after' record') := by
  cases replay <;> trivial

section

variable {replay : HistoryReplay} {runId : RunId} {before after : List JournalRecord}
  {record : JournalRecord}

section

variable (replayed : ReplayedBy replay runId (before ++ record :: after))
  (canonical : Canonical runId (before ++ record :: after))
include replayed canonical

theorem ReplayedBy.stopped {event : AttemptImplementationAbandoned}
    (abandons : record.event = .attemptImplementationAbandoned event) :
    ChoiceApplied before .stopTaskImplementation event.requestId event.subject ∧
      provesCurrentSuspension event.reportOrdinal event.subject.plannedAttempt
        (replay.prior before after record) = true := by
  obtain ⟨indexes, _, checked⟩ := replayed.record
  have prior := canonical.presents_prior replay
  have accepted := checked.stop
  simp only [validateAttemptStop, abandons, validateStopEventAuthority, validateStopAbandonment,
    List.append_eq_nil_iff, issueUnless_eq_nil] at accepted
  obtain ⟨⟨_, applied⟩, proven, _⟩ := accepted
  refine ⟨applied_of_matchingAppliedStop prior applied, ?_⟩
  split at proven
  · cases proven
  · next proves => simpa [HistoryReplay.prior] using proves

theorem ReplayedBy.restarted {event : PlannedAttemptReplaced}
    (replaces : record.event = .plannedAttemptReplaced event) :
    (∃ applied ∈ before,
      choiceOf? applied.event =
          some ⟨.restartTaskImplementation, event.requestId, event.subject⟩ ∧
        restartChoiceStands (replay.prior before after record) applied.position event.subject =
          true) ∧
      ∀ earlier ∈ before, ∀ attempt, recoveredAttempt? earlier.event = some attempt →
        attempt.attemptId ≠ event.subject.plannedAttempt.attemptId := by
  obtain ⟨indexes, tracks, checked⟩ := replayed.record
  have prior := canonical.presents_prior replay
  have accepted := checked.replacement
  unfold validatePlannedAttemptReplacement at accepted
  rw [replaces] at accepted
  dsimp only at accepted
  cases found : appliedRestartForReplacement event (priorRecords record.position
      (replay.source (before ++ record :: after) before.length)) with
  | none => simp [found] at accepted
  | some applied =>
      simp only [found, List.append_eq_nil_iff, issueUnless_eq_nil, Bool.not_eq_true',
        decide_eq_false_iff_not] at accepted
      obtain ⟨⟨⟨⟨_, unsuperseded⟩, _⟩, _⟩, stands⟩ := accepted
      refine ⟨⟨applied, ?_, ?_, stands⟩, ?_⟩
      · exact mem_of_attemptRecordsUnderKey prior
          (List.mem_reverse.mp (List.mem_of_find?_eq_some found))
      · exact choice_of_appliesChoice (by simpa using List.find?_some found)
      · intro earlier member attempt recovered same
        exact unsuperseded ((tracks.superseded _).mpr
          ⟨earlier, member, attempt, Or.inl recovered, same⟩)

end

variable {source : JournalHistorySource}

theorem directed_of_replacement {event : ResultRecoveryAttemptReplaced}
    (accepted : resultRecoveryReplacementProblem source event = none) :
    ∃ directed : ResultRecoveryDirected, directed.subject = event.subject ∧
      resultRecoveryDirectionProblem directed event.requestId.runId source (some event.requestId) =
        none ∧
      ((journalRecordsForAttempt event.subject.plannedAttempt.attemptId source).any fun earlier =>
        replacesAttempt event.subject.plannedAttempt earlier.event) = false := by
  unfold resultRecoveryReplacementProblem at accepted
  dsimp only at accepted
  split at accepted
  · cases accepted
  · next record directed found =>
      split at accepted
      · cases accepted
      · next admitted =>
          refine ⟨directed, ?_, ?_, ?_⟩
          · simpa using (Option.filter_eq_some_iff.mp found).2
          · unfold restartDirectionProblem at admitted
            split at admitted
            · cases admitted
            · split at admitted
              · cases admitted
              · next directed => exact directed
          · split at accepted
            · cases accepted
            · split at accepted
              · cases accepted
              · split at accepted
                · cases accepted
                · next unreplaced => simpa using unreplaced

theorem ReplayedBy.recovered (replayed : ReplayedBy replay runId (before ++ record :: after))
    (canonical : Canonical runId (before ++ record :: after)) {event : ResultRecoveryAttemptReplaced}
    (replaces : record.event = .resultRecoveryAttemptReplaced event) :
    Planned before event.subject.plannedAttempt ∧
      (∀ earlier ∈ before,
        restartedAttempt? earlier.event ≠ some event.subject.plannedAttempt) ∧
        ∃ evidence, latestPlannedAttemptExecutorEvidence (replay.prior before after record)
            event.subject.plannedAttempt none = some evidence ∧
          evidence.report.isSafelySuspended = false := by
  obtain ⟨indexes, tracks, checked⟩ := replayed.record
  have prior := canonical.presents_prior replay
  have accepted := checked.recovery
  simp only [validateResultRecovery, replaces, Option.toList_eq_nil_iff] at accepted
  obtain ⟨directed, same, admitted, unreplaced⟩ := directed_of_replacement accepted
  obtain ⟨_, planned, _, evidence, latest, _, selected⟩ :=
    resultRecoveryDirectionProblem_eq_none.mp admitted
  rw [same] at planned latest
  refine ⟨planned_of_recordedTaskAttemptPlanFor prior planned, ?_, evidence, ?_,
    not_suspended_of_selected selected⟩
  · intro earlier member restarted
    obtain ⟨event', replaced, about⟩ := restartedAttempt_eq_some restarted
    have subject : subjectAttempt? earlier.event = some event.subject.plannedAttempt := by
      rw [replaced, subjectAttempt?, about]
    have listed := prior.mem_recordsForAttempt member subject
    rw [List.any_eq_false] at unreplaced
    refine unreplaced earlier listed ?_
    simp [replaced, replacesAttempt, about, plannedTaskAttemptEquivalence]
  · exact (Option.filter_eq_some_iff.mp latest).1

theorem mem_of_exactCancellation {records : List JournalRecord} (presents : Presents source records)
    {position : JournalPosition} {cancellation : JournalRecord}
    (found : exactCancellation position source = some cancellation) :
    cancellation ∈ records ∧ isRunCancellation cancellation.event = true := by
  unfold exactCancellation at found
  cases presents with
  | raw =>
      have selected := List.find?_some found
      rw [Bool.and_eq_true] at selected
      exact ⟨List.mem_of_find?_eq_some found, selected.2⟩
  | indexed chronological shows =>
      obtain ⟨stands, cancels⟩ := Option.filter_eq_some_iff.mp found
      exact ⟨(Presents.indexed chronological shows).mem_of_recordByPosition stands, cancels⟩

theorem recordUnderKey_isSome {records : List JournalRecord} (presents : Presents source records)
    (canonical : Canonical runId records) {test : WorkflowJournalEvent → Bool}
    (member : record ∈ records) (selected : test record.event = true) :
    (recordUnderKey record.event.expectedKey test source).isSome = true := by
  unfold recordUnderKey
  cases presents with
  | raw =>
      cases found : records.find? fun record => test record.event with
      | none => exact absurd selected (by simpa using List.find?_eq_none.mp found record member)
      | some other =>
          have satisfies : test other.event = true := by simpa using List.find?_some found
          simp [found, satisfies]
  | indexed chronological shows =>
      have found := canonical.find_key member
      rw [← (Presents.indexed chronological shows).recordByKey] at found
      simp [found, selected]

theorem ReplayedBy.cancelled (replayed : ReplayedBy replay runId (before ++ record :: after))
    (canonical : Canonical runId (before ++ record :: after))
    {event : CancelledAttemptImplementationAbandoned}
    (abandons : record.event = .cancelledAttemptImplementationAbandoned event) :
    Planned before event.plannedAttempt ∧
      (∃ cancellation ∈ before, isRunCancellation cancellation.event = true) ∧
        ∀ earlier ∈ before, restartedAttempt? earlier.event ≠ some event.plannedAttempt := by
  obtain ⟨indexes, _, checked⟩ := replayed.record
  obtain ⟨rest, through, presents⟩ := canonical.presents_source replay
  have prior := canonical.presents_prior replay
  have accepted := (List.append_eq_nil_iff.mp checked.cancelled).2
  simp only [validateAbandonment, abandons, validateAbandonmentFoundations,
    validateAbandonmentNotReplaced, List.append_eq_nil_iff, issueUnless_eq_nil] at accepted
  obtain ⟨⟨⟨⟨⟨⟨⟨cancelled, _⟩, planned⟩, _⟩, unreplaced⟩, _⟩, _⟩, _⟩ := accepted
  refine ⟨planned_of_recordedTaskAttemptPlanFor prior planned, ?_, ?_⟩
  · split at cancelled
    · cases cancelled
    · next found =>
        rw [Bool.not_eq_true, Option.isNone_eq_false_iff] at found
        obtain ⟨cancellation, found⟩ := Option.isSome_iff_exists.mp found
        obtain ⟨stands, earlier⟩ := Option.filter_eq_some_iff.mp found
        obtain ⟨member, cancels⟩ := mem_of_exactCancellation presents stands
        exact ⟨cancellation, mem_before_of_position through member (by simpa using earlier), cancels⟩
  · intro earlier member restarted
    obtain ⟨event', replaced, about⟩ := restartedAttempt_eq_some restarted
    have selected : replacesAttempt event.plannedAttempt earlier.event = true := by
      simp [replaced, replacesAttempt, about, plannedTaskAttemptEquivalence]
    have found := recordUnderKey_isSome prior canonical.left member selected
    rw [replaced, WorkflowJournalEvent.expectedKey, about] at found
    rw [Option.isNone_iff_eq_none] at unreplaced
    rw [unreplaced] at found
    cases found

end

def Precedes (records : List JournalRecord) (first second : JournalRecord) : Prop :=
  ∃ before between after, records = before ++ first :: (between ++ second :: after)

theorem precedes_or_precedes {records : List JournalRecord} {first second : JournalRecord}
    (here : first ∈ records) (there : second ∈ records) (differ : first ≠ second) :
    Precedes records first second ∨ Precedes records second first := by
  obtain ⟨before, after, rfl⟩ := List.mem_iff_append.mp here
  rcases List.mem_append.mp there with earlier | later
  · obtain ⟨left, right, rfl⟩ := List.mem_iff_append.mp earlier
    exact Or.inr ⟨left, right, after, by simp⟩
  · rcases List.mem_cons.mp later with same | later
    · exact absurd same.symm differ
    · obtain ⟨left, right, rfl⟩ := List.mem_iff_append.mp later
      exact Or.inl ⟨before, left, right, rfl⟩

theorem findLast_append {Item : Type} {items rest : List Item} {test : Item → Bool} :
    findLast (items ++ rest) test = (findLast rest test).or (findLast items test) := by
  rw [findLast, List.reverse_append, List.find?_append]
  rfl

section

variable {replay : HistoryReplay} {runId : RunId} {records : List JournalRecord}
  {first second : JournalRecord} {plannedAttempt : PlannedTaskAttempt}

variable {stop : AttemptChoiceApplied}

variable (replayed : ReplayedBy replay runId records) (canonical : Canonical runId records)
include replayed canonical

theorem ReplayedBy.not_chosen_behind_stop (order : Precedes records first second)
    {choice : AttemptChoiceApplied} (stops : choiceOf? first.event = some stop)
    (isStop : stop.choice = .stopTaskImplementation) (chosen : choiceOf? second.event = some choice)
    : stop.subject.plannedAttempt ≠ choice.subject.plannedAttempt := by
  obtain ⟨before, between, after, rfl⟩ := order
  rw [← List.cons_append, ← List.append_assoc] at replayed canonical
  exact (replayed.choice canonical chosen).unstopped first (by simp) stop stops isStop

theorem ReplayedBy.stop_unique (here : first ∈ records) (there : second ∈ records)
    {left right : AttemptChoiceApplied} (stops : choiceOf? first.event = some left)
    (isStop : left.choice = .stopTaskImplementation) (stops' : choiceOf? second.event = some right)
    (isStop' : right.choice = .stopTaskImplementation)
    (same : left.subject.plannedAttempt = right.subject.plannedAttempt) : first = second := by
  by_contra differ
  rcases precedes_or_precedes here there differ with order | order
  · exact replayed.not_chosen_behind_stop canonical order stops isStop stops' same
  · exact replayed.not_chosen_behind_stop canonical order stops' isStop' stops same.symm

/-- A Stop behind a Restart of the plan was chosen for a later specification. -/
theorem ReplayedBy.diverged_before_stop (order : Precedes records first second)
    {restart : AttemptChoiceApplied} (restarts : choiceOf? first.event = some restart)
    (stops : choiceOf? second.event = some stop)
    (same : restart.subject.plannedAttempt = stop.subject.plannedAttempt) :
    ∃ target, recordedTarget? records = some target ∧
      ∃ observed ∈ records, first.position < observed.position ∧
        observed.position < second.position ∧
        ∃ facts, specificationOf restart.subject.plannedAttempt.taskId target observed.event =
            some facts ∧ facts.fingerprint ≠ restart.subject.observedTaskRevision := by
  obtain ⟨before, between, after, rfl⟩ := order
  have restarting := replayed.choice canonical restarts
  obtain ⟨target, old, named, observed_old, old_fingerprint⟩ := restarting.current
  have ordered := List.pairwise_append.mp canonical.chronological.increasing
  have behind := List.pairwise_cons.mp ordered.2.1
  have within := List.pairwise_append.mp behind.2
  have stopping := by
    have replayed := replayed
    have canonical := canonical
    rw [← List.cons_append, ← List.append_assoc] at replayed canonical
    exact replayed.choice canonical stops
  obtain ⟨target', new, named', observed_new, new_fingerprint⟩ := stopping.current
  rw [recordedTarget_append named, Option.some.injEq] at named'
  subst named'
  rw [← same] at observed_new
  have differs : new.fingerprint ≠ restart.subject.observedTaskRevision := by
    intro unchanged
    refine stopping.fresh first (by simp) restart restarts ?_
    cases restart_subject : restart.subject
    cases stop_subject : stop.subject
    simp_all
  obtain ⟨record, last, found⟩ := Option.bind_eq_some_iff.mp observed_new
  rw [findLast_append] at last
  refine ⟨target, recordedTarget_append named _, record, ?_⟩
  cases later : findLast (first :: between)
      (observesSpecification restart.subject.plannedAttempt.taskId target) with
  | none =>
      -- the last observation would be that of the Restart
      rw [later, Option.none_or] at last
      rw [recordedSpecification?, last, Option.bind_some, found, Option.some.injEq] at observed_old
      exact absurd (observed_old ▸ old_fingerprint) differs
  | some other =>
      rw [later, Option.some_or, Option.some.injEq] at last
      subst last
      have member := List.mem_reverse.mp (List.mem_of_find?_eq_some later)
      rcases List.mem_cons.mp member with rfl | member
      · rw [choiceOf_eq_some restarts] at found
        cases found
      · exact ⟨by simp [member], behind.1 other (by simp [member]),
          within.2.2 other member second List.mem_cons_self, new, found, differs⟩

theorem ReplayedBy.not_stopped_of_restarted (here : first ∈ records) (there : second ∈ records)
    (replaced : restartedAttempt? first.event = some plannedAttempt)
    (stops : choiceOf? second.event = some stop) (isStop : stop.choice = .stopTaskImplementation) :
    stop.subject.plannedAttempt ≠ plannedAttempt := by
  intro same
  obtain ⟨event, replaces, about⟩ := restartedAttempt_eq_some replaced
  obtain ⟨before, after, rfl⟩ := List.mem_iff_append.mp here
  obtain ⟨⟨applied, listed, restarts, stands⟩, _⟩ := replayed.restarted canonical replaces
  have ordered := List.pairwise_append.mp canonical.chronological.increasing
  rcases List.mem_append.mp there with earlier | later
  · have differ : applied ≠ second := by
      rintro rfl
      rw [restarts, Option.some.injEq] at stops
      rw [← stops] at isStop
      cases isStop
    have known : ∀ record, record ∈ before → record ∈ before ++ first :: after := fun record member =>
      List.mem_append_left _ member
    rcases precedes_or_precedes (known _ listed) there differ with order | order
    · obtain ⟨target, named, observed, member, behind, ahead, facts, found, differs⟩ :=
        replayed.diverged_before_stop canonical order restarts stops (about.trans same.symm)
      have inside : observed ∈ before := by
        have early := Nat.lt_trans ahead (ordered.2.2 second earlier first List.mem_cons_self)
        rw [← canonical.filter_before]
        exact List.mem_filter.mpr ⟨member, decide_eq_true early⟩
      have prior := canonical.presents_prior replay
      obtain ⟨known_target, shown, stands⟩ := Option.any_eq_true _ _ |>.mp stands
      have recorded := recordedTarget_append (recordedTarget_eq prior shown) (first :: after)
      rw [named, Option.some.injEq] at recorded
      subst recorded
      have diverged := (prior.specificationDivergedAfter_iff event.subject.plannedAttempt.taskId target
        event.subject.observedTaskRevision applied.position).mpr
          ⟨observed, inside, behind, facts, found, differs⟩
      rw [HistoryReplay.prior, diverged] at stands
      cases stands
    · exact replayed.not_chosen_behind_stop canonical order stops isStop restarts
        (same.trans about.symm)
  · rcases List.mem_cons.mp later with rfl | later
    · rw [replaces] at stops
      cases stops
    · obtain ⟨between, rest, rfl⟩ := List.mem_iff_append.mp later
      rw [← List.cons_append, ← List.append_assoc] at replayed canonical
      exact (replayed.choice canonical stops).unreplaced first (by simp) (by rw [replaced, same])

end

section

variable {replay : HistoryReplay} {runId : RunId} {source : JournalHistorySource}
  {records before after : List JournalRecord} {record : JournalRecord}
  {plannedAttempt : PlannedTaskAttempt}

theorem concernsAttempt_of_report (checked : validateReportCorrelation record.event = [])
    {report : PlannedAttemptExecutorReport} {origin : PlannedAttemptExecutorEvidenceSource}
    (reported : reportOf record.event = some (report, origin)) :
    concernsAttempt report.correlation.attemptId record = true := by
  obtain ⟨event, _, _, _⟩ := record
  unfold reportOf at reported
  unfold validateReportCorrelation at checked
  split at reported <;>
    simp_all [concernsAttempt, WorkflowJournalEvent.executorCorrelation?,
      plannedAttemptExecutorCorrelation, exactCorrelation]
  all_goals
    split at reported <;> simp_all

theorem silentAbout_of_no_executor (other : record.event.executorCorrelation? = none) :
    SilentAbout plannedAttempt record := by
  refine silentAbout_of_other (by simp [concernsAttempt, other]) fun report origin reported => ?_
  unfold reportOf at reported
  split at reported <;> simp_all [WorkflowJournalEvent.executorCorrelation?]

theorem ReplayedBy.silent (replayed : ReplayedBy replay runId (before ++ record :: after))
    {earlier : JournalRecord} (member : earlier ∈ before) {ended : PlannedTaskAttempt}
    (ends : stoppedAttempt? earlier.event = some ended ∨ recoveredAttempt? earlier.event = some ended)
    (same : ended.attemptId = plannedAttempt.attemptId) : SilentAbout plannedAttempt record := by
  obtain ⟨indexes, tracks, checked⟩ := replayed.record
  obtain ⟨cutoffs, reports⟩ := List.append_eq_nil_iff.mp checked.executor
  refine silentAbout_of_other ?_ fun report origin reported =>
    concernsAttempt_of_report reports reported
  cases executor : record.event.executorCorrelation? with
  | none => simp [concernsAttempt, executor]
  | some correlation =>
      simp only [executor, List.append_eq_nil_iff, issueUnless_eq_nil, Bool.not_eq_true',
        decide_eq_false_iff_not] at cutoffs
      rw [concernsAttempt, executor, Option.any_some, decide_eq_false_iff_not]
      intro concerned
      rcases ends with stopped | recovered
      · exact cutoffs.1 ((tracks.abandoned _).mpr
          ⟨earlier, member, ended, stopped, same.trans concerned.symm⟩)
      · exact cutoffs.2 ((tracks.superseded _).mpr
          ⟨earlier, member, ended, Or.inl recovered, same.trans concerned.symm⟩)

theorem mem_of_proofEvidence (presents : Presents source records) {reportOrdinal : Nat}
    {evidence : PlannedAttemptExecutorEvidence}
    (found : proofEvidenceFor reportOrdinal plannedAttempt source = some evidence) :
    ∃ record ∈ records, evidenceFromRecord record plannedAttempt = some evidence := by
  cases presents with
  | raw =>
      obtain ⟨record, member, reported⟩ := List.mem_filterMap.mp (List.mem_of_find?_eq_some found)
      exact ⟨record, member, by simpa using reported⟩
  | indexed chronological shows =>
      obtain ⟨record, listed, found⟩ := Option.bind_eq_some_iff.mp found
      rw [(Presents.indexed chronological shows).recordByKey] at listed
      refine ⟨record, List.mem_of_find?_eq_some listed, ?_⟩
      split at found
      · next event reported =>
          split at found
          · next exact_ =>
              rw [Bool.and_eq_true] at exact_
              rw [← Option.some.inj found]
              simp [evidenceFromRecord, reported, reportOf, exact_.2]
          · cases found
      · cases found

theorem suspended_of_provesCurrentSuspension (presents : Presents source records)
    (canonical : Canonical runId records) {reportOrdinal : Nat}
    (proves : provesCurrentSuspension reportOrdinal plannedAttempt source = true) :
    ∃ evidence, latestPlannedAttemptExecutorEvidence source plannedAttempt none = some evidence ∧
      evidence.report.isSafelySuspended = true := by
  obtain ⟨proof, proven, proves⟩ := Option.any_eq_true _ _ |>.mp proves
  obtain ⟨current, latest, proves⟩ := Option.any_eq_true _ _ |>.mp proves
  simp only [Bool.and_eq_true, decide_eq_true_iff] at proves
  obtain ⟨record, member, reported⟩ := mem_of_proofEvidence presents proven
  obtain ⟨record', member', reported'⟩ := mem_of_latestEvidence presents latest
  have positions : record'.position = record.position := by
    rw [← observedAt_of_evidence reported', proves.1, observedAt_of_evidence reported]
  have same := canonical.chronological.increasing.eq_of_position member' member positions
  rw [same, reported, Option.some.injEq] at reported'
  exact ⟨current, latest, by rw [← reported']; exact proves.2⟩

end

/-- The four ways in which an event ends a plan. -/
inductive EndsAttempt (event : WorkflowJournalEvent) (plannedAttempt : PlannedTaskAttempt) : Prop
  | stopped (stop : AttemptImplementationAbandoned)
      (recorded : event = .attemptImplementationAbandoned stop)
      (about : stop.subject.plannedAttempt = plannedAttempt)
  | cancelled (cancelled : CancelledAttemptImplementationAbandoned)
      (recorded : event = .cancelledAttemptImplementationAbandoned cancelled)
      (about : cancelled.plannedAttempt = plannedAttempt)
  | restarted (restarted : PlannedAttemptReplaced)
      (recorded : event = .plannedAttemptReplaced restarted)
      (about : restarted.subject.plannedAttempt = plannedAttempt)
  | recovered (recovered : ResultRecoveryAttemptReplaced)
      (recorded : event = .resultRecoveryAttemptReplaced recovered)
      (about : recovered.subject.plannedAttempt = plannedAttempt)

theorem endsAttempt_of_ended {event : WorkflowJournalEvent} {plannedAttempt : PlannedTaskAttempt}
    (ended : endedAttempt? event = some plannedAttempt) : EndsAttempt event plannedAttempt := by
  unfold endedAttempt? at ended
  split at ended
  · next stop => exact .stopped stop rfl (Option.some.inj ended)
  · next cancelled => exact .cancelled cancelled rfl (Option.some.inj ended)
  · next restarted => exact .restarted restarted rfl (Option.some.inj ended)
  · next recovered => exact .recovered recovered rfl (Option.some.inj ended)
  · cases ended

/-- The abandonment that follows a cancellation and a disposal that the two checks overlook. -/
def Overlooked (first second : WorkflowJournalEvent) : Prop :=
  (cancelledAttempt? first).isSome = true ∧
    ((stoppedAttempt? second).isSome = true ∨ (recoveredAttempt? second).isSome = true)

section

variable {replay : HistoryReplay} {runId : RunId} {before between after : List JournalRecord}
  {record first second : JournalRecord} {plannedAttempt : PlannedTaskAttempt}

theorem ReplayedBy.planned_of_ended (replayed : ReplayedBy replay runId (before ++ record :: after))
    (canonical : Canonical runId (before ++ record :: after))
    (ended : endedAttempt? record.event = some plannedAttempt) : Planned before plannedAttempt := by
  have planned_of_choice : ∀ chosen ∈ before, ∀ choice, choiceOf? chosen.event = some choice →
      Planned before choice.subject.plannedAttempt := by
    intro chosen member choice applied
    obtain ⟨left, right, rfl⟩ := List.mem_iff_append.mp member
    rw [List.append_assoc, List.cons_append] at replayed canonical
    obtain ⟨plan, listed, planned⟩ := (replayed.choice canonical applied).planned
    exact ⟨plan, List.mem_append_left _ listed, planned⟩
  cases endsAttempt_of_ended ended with
  | stopped stop event about =>
      obtain ⟨⟨chosen, member, applied⟩, _⟩ := replayed.stopped canonical event
      exact about ▸ planned_of_choice chosen member _ applied
  | cancelled cancelled event about => exact about ▸ (replayed.cancelled canonical event).1
  | restarted restarted event about =>
      obtain ⟨⟨chosen, member, applied, _⟩, _⟩ := replayed.restarted canonical event
      exact about ▸ planned_of_choice chosen member _ applied
  | recovered recovered event about => exact about ▸ (replayed.recovered canonical event).1

theorem Canonical.key_ne
    (canonical : Canonical runId (before ++ first :: (between ++ second :: after))) :
    first.event.expectedKey ≠ second.event.expectedKey := by
  intro same
  have ordered := (List.pairwise_append.mp canonical.chronological.increasing).2.1
  have earlier := (List.pairwise_cons.mp ordered).1 second (by simp)
  rw [canonical.eq_of_key (by simp) (by simp) same] at earlier
  exact Nat.lt_irrefl _ earlier

variable (replayed : ReplayedBy replay runId (before ++ first :: (between ++ second :: after)))
  (canonical : Canonical runId (before ++ first :: (between ++ second :: after)))
include replayed canonical

theorem ReplayedBy.latestEvidence_eq
    (ends : stoppedAttempt? first.event = some plannedAttempt ∨
      recoveredAttempt? first.event = some plannedAttempt) :
    latestPlannedAttemptExecutorEvidence (replay.prior (before ++ first :: between) after second)
        plannedAttempt none =
      latestPlannedAttemptExecutorEvidence
        (replay.prior before (between ++ second :: after) first) plannedAttempt none := by
  have earlier := canonical.presents_prior replay
  have later : Presents (replay.prior (before ++ first :: between) after second)
      (before ++ first :: between) := by
    rw [← List.cons_append, ← List.append_assoc] at canonical
    exact canonical.presents_prior replay
  refine latestEvidence_append earlier later (sameKind_prior replay _ _ _ _ _ _) ?_
  intro other member
  rcases List.mem_cons.mp member with rfl | member
  · refine silentAbout_of_no_executor ?_
    rcases ends with stopped | recovered
    · unfold stoppedAttempt? at stopped
      split at stopped <;> simp_all [WorkflowJournalEvent.executorCorrelation?]
    · unfold recoveredAttempt? at recovered
      split at recovered <;> simp_all [WorkflowJournalEvent.executorCorrelation?]
  · obtain ⟨left, right, rfl⟩ := List.mem_iff_append.mp member
    rw [List.append_assoc, List.cons_append, ← List.cons_append, ← List.append_assoc] at replayed
    exact replayed.silent (by simp) ends rfl

theorem ReplayedBy.stopped_recovered_apart {stop : AttemptImplementationAbandoned}
    {recovered : ResultRecoveryAttemptReplaced}
    (same : stop.subject.plannedAttempt = recovered.subject.plannedAttempt) :
    ¬ (first.event = .attemptImplementationAbandoned stop ∧
        second.event = .resultRecoveryAttemptReplaced recovered) ∧
      ¬ (first.event = .resultRecoveryAttemptReplaced recovered ∧
        second.event = .attemptImplementationAbandoned stop) := by
  have earlier := canonical.presents_prior replay
  have replayed' := replayed
  have canonical' := canonical
  rw [← List.cons_append, ← List.append_assoc] at replayed' canonical'
  have later := canonical'.presents_prior replay
  constructor
  · rintro ⟨stops, replaces⟩
    obtain ⟨current, latest, safe⟩ := suspended_of_provesCurrentSuspension earlier canonical.left
      (replayed.stopped canonical stops).2
    obtain ⟨_, _, evidence, latest', unsafe_⟩ := replayed'.recovered canonical' replaces
    have ends : stoppedAttempt? first.event = some stop.subject.plannedAttempt := by
      rw [stops, stoppedAttempt?]
    rw [← same, replayed.latestEvidence_eq canonical (Or.inl ends)] at latest'
    rw [HistoryReplay.prior, latest, Option.some.injEq] at latest'
    rw [← latest', safe] at unsafe_
    cases unsafe_
  · rintro ⟨replaces, stops⟩
    obtain ⟨current, latest, safe⟩ := suspended_of_provesCurrentSuspension later canonical'.left
      (replayed'.stopped canonical' stops).2
    obtain ⟨_, _, evidence, latest', unsafe_⟩ := replayed.recovered canonical replaces
    have ends : recoveredAttempt? first.event = some recovered.subject.plannedAttempt := by
      rw [replaces, recoveredAttempt?]
    rw [← replayed.latestEvidence_eq canonical (Or.inr ends), ← same] at latest'
    rw [HistoryReplay.prior, latest, Option.some.injEq] at latest'
    rw [← latest', safe] at unsafe_
    cases unsafe_

/-- An attempt is ended twice only where the checks overlook it. -/
theorem ReplayedBy.overlooked_of_same {left right : PlannedTaskAttempt}
    (ended : endedAttempt? first.event = some left)
    (again : endedAttempt? second.event = some right) (same : left.attemptId = right.attemptId) :
    Overlooked first.event second.event ∨ Overlooked second.event first.event := by
  have replayed' := replayed
  have canonical' := canonical
  rw [← List.cons_append, ← List.append_assoc] at replayed' canonical'
  have differ := canonical.key_ne
  have here : first ∈ before ++ first :: (between ++ second :: after) := by simp
  have there : second ∈ before ++ first :: (between ++ second :: after) := by simp
  have known : first ∈ before ++ first :: between := by simp
  have plans : left = right := by
    obtain ⟨indexes, tracks, _⟩ := replayed'.record
    obtain ⟨plan, listed, planned⟩ := replayed.planned_of_ended canonical ended
    exact tracks.plan_unique ⟨plan, List.mem_append_left _ listed, planned⟩
      (replayed'.planned_of_ended canonical' again) same
  subst plans
  have shown : ∀ chosen ∈ before ++ first :: between,
      chosen ∈ before ++ first :: (between ++ second :: after) := by
    intro chosen member
    rw [← List.cons_append, ← List.append_assoc]
    exact List.mem_append_left _ member
  cases endsAttempt_of_ended ended with
  | stopped stop event about =>
      obtain ⟨⟨chosen, member, applied⟩, _⟩ := replayed.stopped canonical event
      have listed := shown chosen (List.mem_append_left _ member)
      cases endsAttempt_of_ended again with
      | stopped stop' event' about' =>
          obtain ⟨⟨chosen', member', applied'⟩, _⟩ := replayed'.stopped canonical' event'
          have one := replayed.stop_unique canonical listed (shown chosen' member') applied rfl
            applied' rfl (about.trans about'.symm)
          rw [one, applied', Option.some.injEq, AttemptChoiceApplied.mk.injEq] at applied
          rw [event, event', WorkflowJournalEvent.expectedKey, WorkflowJournalEvent.expectedKey,
            applied.2.1] at differ
          exact absurd rfl differ
      | cancelled cancelled event' about' =>
          right
          simp [Overlooked, event, event', cancelledAttempt?, stoppedAttempt?]
      | restarted restarted event' about' =>
          have replaced : restartedAttempt? second.event = some left := by
            rw [event', restartedAttempt?, about']
          exact absurd about
            (replayed.not_stopped_of_restarted canonical there listed replaced applied rfl)
      | recovered recovered event' about' =>
          exact absurd ⟨event, event'⟩
            (replayed.stopped_recovered_apart canonical (about.trans about'.symm)).1
  | cancelled cancelled event about =>
      cases endsAttempt_of_ended again with
      | stopped stop event' about' =>
          left
          simp [Overlooked, event, event', cancelledAttempt?, stoppedAttempt?]
      | cancelled cancelled' event' about' =>
          rw [event, event', WorkflowJournalEvent.expectedKey, WorkflowJournalEvent.expectedKey, about,
            about'] at differ
          exact absurd rfl differ
      | restarted restarted event' about' =>
          obtain ⟨_, ⟨cancellation, member, cancels⟩, _⟩ := replayed.cancelled canonical event
          obtain ⟨front, back, rfl⟩ := List.mem_iff_append.mp member
          have shape : front ++ cancellation :: back ++ first :: (between ++ second :: after) =
              front ++ cancellation :: (back ++ first :: between ++ second :: after) := by simp
          rw [shape] at replayed canonical
          obtain ⟨source, rest, _, _, passed⟩ := replayed.postCancellation canonical cancels
          rw [postCancellationForwardWork, event'] at passed
          cases passed
      | recovered recovered event' about' =>
          left
          simp [Overlooked, event, event', cancelledAttempt?, recoveredAttempt?]
  | restarted restarted event about =>
      have replaced : restartedAttempt? first.event = some left := by
        rw [event, restartedAttempt?, about]
      cases endsAttempt_of_ended again with
      | stopped stop event' about' =>
          obtain ⟨⟨chosen, member, applied⟩, _⟩ := replayed'.stopped canonical' event'
          exact absurd about' (replayed.not_stopped_of_restarted canonical here (shown chosen member)
            replaced applied rfl)
      | cancelled cancelled event' about' =>
          exact absurd (about' ▸ replaced) ((replayed'.cancelled canonical' event').2.2 first known)
      | restarted restarted' event' about' =>
          rw [event, event', WorkflowJournalEvent.expectedKey, WorkflowJournalEvent.expectedKey, about,
            about'] at differ
          exact absurd rfl differ
      | recovered recovered event' about' =>
          exact absurd (about' ▸ replaced) ((replayed'.recovered canonical' event').2.1 first known)
  | recovered recovered event about =>
      have replaced : recoveredAttempt? first.event = some left := by
        rw [event, recoveredAttempt?, about]
      cases endsAttempt_of_ended again with
      | stopped stop event' about' =>
          exact absurd ⟨event, event'⟩
            (replayed.stopped_recovered_apart canonical (about'.trans about.symm)).2
      | cancelled cancelled event' about' =>
          right
          simp [Overlooked, event, event', cancelledAttempt?, recoveredAttempt?]
      | restarted restarted event' about' =>
          exact absurd (by rw [about'])
            ((replayed'.restarted canonical' event').2 first known left replaced)
      | recovered recovered' event' about' =>
          rw [event, event', WorkflowJournalEvent.expectedKey, WorkflowJournalEvent.expectedKey, about,
            about'] at differ
          exact absurd rfl differ

end

end Dalph
