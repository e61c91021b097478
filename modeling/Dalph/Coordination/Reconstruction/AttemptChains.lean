import Dalph.Coordination.Reconstruction.SingleEnding

/-!
# Chains of attempts

A replacement leads from an attempt to its successor.  In an accepted history the attempts form
linear chains, and each attempt ends once where cancellation abandons none that was disposed of.
-/

namespace Dalph

def endedAttemptId? (record : JournalRecord) : Option AttemptId :=
  (endedAttempt? record.event).map (·.attemptId)

def EndsOnce (records : List JournalRecord) : Prop :=
  (records.filterMap endedAttemptId?).Nodup

instance (records : List JournalRecord) : Decidable (EndsOnce records) :=
  inferInstanceAs (Decidable (List.Nodup _))

def replacement? : WorkflowJournalEvent → Option (PlannedTaskAttempt × PlannedTaskAttempt)
  | .plannedAttemptReplaced event =>
      some (event.subject.plannedAttempt, event.successorPlan.plannedAttempt)
  | .resultRecoveryAttemptReplaced event =>
      some (event.subject.plannedAttempt, event.successorPlan.plannedAttempt)
  | _ => none

def Succeeds (records : List JournalRecord) (old new : AttemptId) : Prop :=
  ∃ record ∈ records, ∃ replaced successor, replacement? record.event = some (replaced, successor) ∧
    replaced.attemptId = old ∧ successor.attemptId = new

/-- The attempts form chains without forks, joins and cycles. -/
structure LinearChains (records : List JournalRecord) : Prop where
  successor : ∀ {old new other}, Succeeds records old new → Succeeds records old other → new = other
  predecessor : ∀ {old other new}, Succeeds records old new → Succeeds records other new → old = other
  acyclic : ∀ attemptId, ¬ Relation.TransGen (Succeeds records) attemptId attemptId

/-- No attempt that the cancellation abandons is abandoned by Stop or replaced by result recovery. -/
def CancelledApart (records : List JournalRecord) : Prop :=
  ∀ first ∈ records, ∀ second ∈ records, ∀ left right,
    cancelledAttempt? first.event = some left →
      (stoppedAttempt? second.event = some right ∨ recoveredAttempt? second.event = some right) →
        left.attemptId ≠ right.attemptId

variable {records : List JournalRecord}

theorem precedes_iff {first second : JournalRecord} :
    Precedes records first second ↔ [first, second].Sublist records := by
  constructor
  · rintro ⟨before, between, after, rfl⟩
    refine List.Sublist.trans ?_ (List.sublist_append_right before _)
    exact List.cons_sublist_cons.mpr (List.singleton_sublist.mpr (by simp))
  · intro sublist
    obtain ⟨left, right, rfl, here, there⟩ := List.cons_sublist_iff.mp sublist
    obtain ⟨before, between, rfl⟩ := List.mem_iff_append.mp here
    obtain ⟨more, after, rfl⟩ := List.mem_iff_append.mp (List.singleton_sublist.mp there)
    exact ⟨before, between ++ more, after, by simp⟩

theorem endsOnce_iff_precedes :
    EndsOnce records ↔ ∀ first second, Precedes records first second → ∀ left right,
      endedAttempt? first.event = some left → endedAttempt? second.event = some right →
        left.attemptId ≠ right.attemptId := by
  rw [EndsOnce, List.Nodup, List.pairwise_filterMap, List.pairwise_iff_forall_sublist]
  constructor
  · intro pairs first second order left right ended again
    exact pairs (precedes_iff.mp order) _ (by simp [endedAttemptId?, ended]) _
      (by simp [endedAttemptId?, again])
  · intro pairs first second sublist id found id' found'
    obtain ⟨left, ended, rfl⟩ := Option.map_eq_some_iff.mp found
    obtain ⟨right, again, rfl⟩ := Option.map_eq_some_iff.mp found'
    exact pairs first second (precedes_iff.mpr sublist) left right ended again

section

variable {event : WorkflowJournalEvent} {plannedAttempt successor : PlannedTaskAttempt}

theorem ended_of_cancelled (cancelled : cancelledAttempt? event = some plannedAttempt) :
    endedAttempt? event = some plannedAttempt := by
  unfold cancelledAttempt? at cancelled
  split at cancelled <;> simp_all [endedAttempt?]

theorem ended_of_disposed (disposed : stoppedAttempt? event = some plannedAttempt ∨
    recoveredAttempt? event = some plannedAttempt) : endedAttempt? event = some plannedAttempt := by
  unfold stoppedAttempt? recoveredAttempt? at disposed
  rcases disposed with stopped | recovered
  · split at stopped <;> simp_all [endedAttempt?]
  · split at recovered <;> simp_all [endedAttempt?]

theorem ended_of_replacement (replaced : replacement? event = some (plannedAttempt, successor)) :
    endedAttempt? event = some plannedAttempt := by
  unfold replacement? at replaced
  split at replaced <;> simp_all [endedAttempt?]

theorem not_cancelled_of_replacement
    (replaced : replacement? event = some (plannedAttempt, successor)) :
    cancelledAttempt? event = none := by
  unfold replacement? at replaced
  split at replaced <;> simp_all [cancelledAttempt?]

end

theorem planned_of_replacement {record : JournalRecord} {replaced successor : PlannedTaskAttempt}
    (found : replacement? record.event = some (replaced, successor)) :
    ∃ operation, recordedPlan? record = some operation ∧ operation.plannedAttempt = successor := by
  unfold replacement? at found
  unfold recordedPlan?
  split at found <;> simp_all

section

variable {replay : HistoryReplay} {runId : RunId} {records : List JournalRecord}
  {first second : JournalRecord}

variable (replayed : ReplayedBy replay runId records)
include replayed

theorem ReplayedBy.overlooked_of_precedes (canonical : Canonical runId records)
    (order : Precedes records first second) {left right : PlannedTaskAttempt}
    (ended : endedAttempt? first.event = some left)
    (again : endedAttempt? second.event = some right) (same : left.attemptId = right.attemptId) :
    Overlooked first.event second.event ∨ Overlooked second.event first.event := by
  obtain ⟨before, between, after, rfl⟩ := order
  exact replayed.overlooked_of_same canonical ended again same

theorem ReplayedBy.plan_record_unique (here : first ∈ records) (there : second ∈ records)
    {left right : PlannedAttemptOperation} (plans : recordedPlan? first = some left)
    (plans' : recordedPlan? second = some right)
    (same : left.plannedAttempt.attemptId = right.plannedAttempt.attemptId) : first = second := by
  have unplanned : ∀ {first second : JournalRecord} {left right : PlannedAttemptOperation},
      Precedes records first second → recordedPlan? first = some left →
        recordedPlan? second = some right →
          left.plannedAttempt.attemptId ≠ right.plannedAttempt.attemptId := by
    intro first second left right order plans plans' same
    obtain ⟨before, between, after, rfl⟩ := order
    rw [← List.cons_append, ← List.append_assoc] at replayed
    obtain ⟨indexes, tracks, checked⟩ := replayed.record
    have fresh := Tracks.lookup_of_accepted checked.plan plans'
    have known := (tracks.plans right.plannedAttempt.attemptId left.plannedAttempt).mpr
      ⟨first, by simp, left, plans, rfl, same⟩
    rw [fresh] at known
    cases known
  by_contra differ
  rcases precedes_or_precedes here there differ with order | order
  · exact unplanned order plans plans' same
  · exact unplanned order plans' plans same.symm

theorem ReplayedBy.planned_before_successor (canonical : Canonical runId records)
    {old new : AttemptId} (succeeds : Succeeds records old new) :
    ∃ first ∈ records, ∃ second ∈ records, first.position < second.position ∧
      ∃ left right, recordedPlan? first = some left ∧ recordedPlan? second = some right ∧
        left.plannedAttempt.attemptId = old ∧ right.plannedAttempt.attemptId = new := by
  obtain ⟨record, member, replaced, successor, found, rfl, rfl⟩ := succeeds
  obtain ⟨operation, recorded, planned⟩ := planned_of_replacement found
  obtain ⟨before, after, rfl⟩ := List.mem_iff_append.mp member
  obtain ⟨plan, listed, left, plans, about⟩ :=
    replayed.planned_of_ended canonical (ended_of_replacement found)
  have ordered := List.pairwise_append.mp canonical.chronological.increasing
  exact ⟨plan, List.mem_append_left _ listed, record, member,
    ordered.2.2 plan listed record List.mem_cons_self, left, operation, plans, recorded, by rw [about],
    by rw [planned]⟩

theorem ReplayedBy.linearChains (canonical : Canonical runId records) : LinearChains records where
  successor := by
    rintro old new other ⟨first, here, replaced, successor, found, rfl, rfl⟩
      ⟨second, there, replaced', successor', found', same, rfl⟩
    by_cases differ : first = second
    · subst differ
      rw [found, Option.some.injEq, Prod.mk.injEq] at found'
      rw [found'.2]
    · have uncancelled := not_cancelled_of_replacement found
      have uncancelled' := not_cancelled_of_replacement found'
      have overlooked : Overlooked first.event second.event ∨
          Overlooked second.event first.event := by
        rcases precedes_or_precedes here there differ with order | order
        · exact replayed.overlooked_of_precedes canonical order (ended_of_replacement found)
            (ended_of_replacement found') same.symm
        · exact (replayed.overlooked_of_precedes canonical order (ended_of_replacement found')
            (ended_of_replacement found) same).symm
      simp [Overlooked, uncancelled, uncancelled'] at overlooked
  predecessor := by
    rintro old other new ⟨first, here, replaced, successor, found, rfl, rfl⟩
      ⟨second, there, replaced', successor', found', rfl, same⟩
    obtain ⟨operation, recorded, planned⟩ := planned_of_replacement found
    obtain ⟨operation', recorded', planned'⟩ := planned_of_replacement found'
    have one := replayed.plan_record_unique here there recorded recorded'
      (by rw [planned, planned', same])
    subst one
    rw [found, Option.some.injEq, Prod.mk.injEq] at found'
    rw [found'.1]
  acyclic := by
    -- along a chain the plans stand one behind the other
    have later : ∀ {old new}, Relation.TransGen (Succeeds records) old new →
        ∃ first ∈ records, ∃ second ∈ records, first.position < second.position ∧
          ∃ left right, recordedPlan? first = some left ∧ recordedPlan? second = some right ∧
            left.plannedAttempt.attemptId = old ∧ right.plannedAttempt.attemptId = new := by
      intro old new chain
      induction chain with
      | single succeeds => exact replayed.planned_before_successor canonical succeeds
      | tail _ succeeds induction =>
          obtain ⟨first, here, middle, between, early, left, inner, plans, planned, rfl, rfl⟩ :=
            induction
          obtain ⟨middle', between', second, there, late, inner', right, planned', plans', same, rfl⟩ :=
            replayed.planned_before_successor canonical succeeds
          have one := replayed.plan_record_unique between between' planned planned' same.symm
          subst one
          exact ⟨first, here, second, there, Nat.lt_trans early late, left, right, plans, plans', rfl,
            rfl⟩
    intro attemptId cycle
    obtain ⟨first, here, second, there, early, left, right, plans, plans', rfl, same⟩ := later cycle
    rw [replayed.plan_record_unique here there plans plans' same.symm] at early
    exact Nat.lt_irrefl _ early

end

/-- In an accepted history every attempt ends once and the attempts form linear chains exactly when
the cancellation abandons no attempt that Stop abandons or result recovery replaces. -/
theorem endsOnce_and_linearChains_iff {runId : RunId} {records : List JournalRecord}
    (accepted : AcceptedHistory runId records) :
    EndsOnce records ∧ LinearChains records ↔ CancelledApart records := by
  obtain ⟨replay, replayed⟩ := accepted.replayed
  have canonical := accepted.canonical
  constructor
  · rintro ⟨once, _⟩ first here second there left right cancelled disposed same
    have ended := ended_of_cancelled cancelled
    have again := ended_of_disposed disposed
    have differ : first ≠ second := by
      rintro rfl
      unfold stoppedAttempt? recoveredAttempt? at disposed
      unfold cancelledAttempt? at cancelled
      split at cancelled <;> simp_all
    rcases precedes_or_precedes here there differ with order | order
    · exact endsOnce_iff_precedes.mp once first second order left right ended again same
    · exact endsOnce_iff_precedes.mp once second first order right left again ended same.symm
  · intro apart
    have overlooked : ∀ {first second : JournalRecord}, first ∈ records → second ∈ records →
        Overlooked first.event second.event → ∀ left right, endedAttempt? first.event = some left →
          endedAttempt? second.event = some right → left.attemptId ≠ right.attemptId := by
      rintro first second here there ⟨cancelled, disposed⟩ left right ended again
      obtain ⟨left', cancelled⟩ := Option.isSome_iff_exists.mp cancelled
      rw [ended_of_cancelled cancelled, Option.some.injEq] at ended
      subst ended
      rw [Option.isSome_iff_exists, Option.isSome_iff_exists] at disposed
      obtain ⟨right', disposed⟩ := exists_or.mpr disposed
      rw [ended_of_disposed disposed, Option.some.injEq] at again
      subst again
      exact apart first here second there left' right' cancelled disposed
    refine ⟨endsOnce_iff_precedes.mpr ?_, replayed.linearChains canonical⟩
    intro first second order left right ended again same
    have here : first ∈ records := (precedes_iff.mp order).subset (by simp)
    have there : second ∈ records := (precedes_iff.mp order).subset (by simp)
    rcases replayed.overlooked_of_precedes canonical order ended again same with forward | backward
    · exact overlooked here there forward left right ended again same
    · exact overlooked there here backward right left again ended same.symm

theorem cancelledApart_of_undisposed
    (undisposed : ∀ record ∈ records,
      stoppedAttempt? record.event = none ∧ recoveredAttempt? record.event = none) :
    CancelledApart records := by
  intro first _ second there left right _ disposed
  obtain ⟨stopped, recovered⟩ := undisposed second there
  simp [stopped, recovered] at disposed

namespace CancelledRun

open EstablishedRun

/-- The attempt that only the cancellation abandons ends once. -/
theorem endsOnce_settled : EndsOnce settled ∧ LinearChains settled :=
  (@endsOnce_and_linearChains_iff runId settled (Or.inr (by decide +kernel))).mpr
    (cancelledApart_of_undisposed (by decide))

def changed : TaskRevision := ⟨"changed-revision"⟩

def stopSubject : AttemptChoiceSubject := ⟨changed, attempt⟩

def abandonedTwice : List JournalRecord :=
  recordsFrom (suspendedEvents ++
    [.taskTrackerReadIntentRecorded
        (.readTaskWorkSpecification (specificationRead ⟨"changed"⟩ graphRead.operationId)),
      specification ⟨"changed"⟩ changed,
      .attemptChoiceApplied ⟨.stopTaskImplementation, ⟨"stop", runId⟩, stopSubject⟩,
      .attemptImplementationAbandoned ⟨claim, 2, ⟨"stop", runId⟩, stopSubject⟩,
      .runCancellationApplied, .cancelledAttemptImplementationAbandoned ⟨claim, 22, attempt, 2⟩])

/-- A stopped attempt is abandoned again because of the cancellation. -/
theorem stopped_attempt_abandoned_again :
    AcceptedHistory runId abandonedTwice ∧ ¬ EndsOnce abandonedTwice :=
  ⟨Or.inr (by decide +kernel), by decide +kernel⟩

end CancelledRun

end Dalph
