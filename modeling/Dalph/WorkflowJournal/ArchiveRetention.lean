import Dalph.Foundation.KeyedMap
import Dalph.Foundation.Utf16
import Dalph.WorkflowJournal.MemoryInvariant

/-!
# Passes of archive retention

A pass removes archived Runs in the order of their baselines while the first one is expired or the
archive is over its budget.  Every unit drops the first remaining candidate, so the Runs of a pass
are a first part of the ordered candidates, and what is left is the rest of them.
-/

namespace Dalph

theorem utf16_injective : Function.Injective utf16 :=
  Utf16.units_injective

theorem retentionOrder_iff {left right : ArchiveRetentionCandidate} :
    retentionOrder left right = true ↔ left.baseline < right.baseline ∨
      left.baseline = right.baseline ∧ utf16 left.runId.value ≤ utf16 right.runId.value := by
  simp [retentionOrder]

theorem retentionOrder_trans (first second third : ArchiveRetentionCandidate)
    (left : retentionOrder first second = true) (right : retentionOrder second third = true) :
    retentionOrder first third = true := by
  rw [retentionOrder_iff] at left right ⊢
  obtain before | ⟨same, texts⟩ := left
  · obtain before' | ⟨same', _⟩ := right
    · exact Or.inl (before.trans before')
    · exact Or.inl (same' ▸ before)
  · obtain before' | ⟨same', texts'⟩ := right
    · exact Or.inl (same ▸ before')
    · exact Or.inr ⟨same.trans same', texts.trans texts'⟩

theorem retentionOrder_total (left right : ArchiveRetentionCandidate) :
    (retentionOrder left right || retentionOrder right left) = true := by
  rw [Bool.or_eq_true, retentionOrder_iff, retentionOrder_iff]
  obtain before | same | behind := Nat.lt_trichotomy left.baseline right.baseline
  · exact Or.inl (Or.inl before)
  · obtain texts | texts := le_total (utf16 left.runId.value) (utf16 right.runId.value)
    · exact Or.inl (Or.inr ⟨same, texts⟩)
    · exact Or.inr (Or.inr ⟨same.symm, texts⟩)
  · exact Or.inr (Or.inl behind)

theorem runId_eq_of_retentionOrder {left right : ArchiveRetentionCandidate}
    (before : retentionOrder left right = true) (behind : retentionOrder right left = true) :
    left.runId = right.runId := by
  rw [retentionOrder_iff] at before behind
  obtain less | ⟨same, texts⟩ := before
  · obtain less' | ⟨same, _⟩ := behind
    · exact absurd less (Nat.lt_asymm less')
    · exact absurd same (Nat.ne_of_gt less)
  · obtain less' | ⟨_, texts'⟩ := behind
    · exact absurd less' (Nat.not_lt_of_le (Nat.le_of_eq same))
    · have values := utf16_injective (le_antisymm texts texts')
      obtain ⟨⟨value, _⟩, _, _⟩ := left
      obtain ⟨⟨value', _⟩, _, _⟩ := right
      obtain rfl : value = value' := values
      rfl

def orderedCandidates (snapshot : ArchiveRetentionSnapshot) : List ArchiveRetentionCandidate :=
  snapshot.candidates.mergeSort retentionOrder

theorem orderedCandidates_sorted (snapshot : ArchiveRetentionSnapshot) :
    (orderedCandidates snapshot).Pairwise fun left right => retentionOrder left right = true :=
  List.pairwise_mergeSort retentionOrder_trans retentionOrder_total _

theorem orderedCandidates_perm (snapshot : ArchiveRetentionSnapshot) :
    (orderedCandidates snapshot).Perm snapshot.candidates :=
  List.mergeSort_perm _ _

theorem retentionReason_isSome {candidate : ArchiveRetentionCandidate} {now total : Nat} :
    (retentionReason candidate now total).isSome = true ↔
      candidate.baseline + archiveAgeMillis ≤ now ∨ archiveByteBudget < total := by
  unfold retentionReason
  dsimp only
  by_cases aged : candidate.baseline + archiveAgeMillis ≤ now
  · simp [aged]
  · by_cases pressure : archiveByteBudget < total <;> simp [aged, pressure]

theorem selectArchiveCandidate_eq (snapshot : ArchiveRetentionSnapshot) (now : Nat) :
    selectArchiveCandidate snapshot now =
      (orderedCandidates snapshot).head?.filter fun candidate =>
        (retentionReason candidate now snapshot.savedBytes).isSome := by
  have sorted := orderedCandidates_sorted snapshot
  unfold selectArchiveCandidate
  unfold orderedCandidates at sorted ⊢
  dsimp only
  generalize snapshot.candidates.mergeSort retentionOrder = ordered at sorted ⊢
  cases ordered with
  | nil => simp
  | cons first rest =>
      rw [List.head?_cons]
      by_cases aged : first.baseline + archiveAgeMillis ≤ now
      · have found : (first :: rest).find? (fun candidate =>
            decide (candidate.baseline + archiveAgeMillis ≤ now)) = some first :=
          List.find?_cons_of_pos (decide_eq_true aged)
        have reason : (retentionReason first now snapshot.savedBytes).isSome = true :=
          retentionReason_isSome.mpr (Or.inl aged)
        rw [found]
        simp [Option.filter, reason]
      · -- Baselines increase, so behind an unexpired candidate none is expired.
        have unexpired : (first :: rest).find? (fun candidate =>
            decide (candidate.baseline + archiveAgeMillis ≤ now)) = none := by
          rw [List.find?_eq_none]
          intro candidate member
          rw [decide_eq_true_eq]
          obtain rfl | later := List.mem_cons.mp member
          · exact aged
          · have before := (List.pairwise_cons.mp sorted).1 candidate later
            rw [retentionOrder_iff] at before
            have baselines : first.baseline ≤ candidate.baseline :=
              before.elim Nat.le_of_lt fun same => Nat.le_of_eq same.1
            exact fun expired => aged (le_trans (Nat.add_le_add_right baselines _) expired)
        rw [unexpired]
        dsimp only
        by_cases pressure : archiveByteBudget < snapshot.savedBytes
        · have reason : (retentionReason first now snapshot.savedBytes).isSome = true :=
            retentionReason_isSome.mpr (Or.inr pressure)
          rw [if_pos pressure]
          simp [Option.filter, reason]
        · have reason : ¬ (retentionReason first now snapshot.savedBytes).isSome = true :=
            fun reason => (retentionReason_isSome.mp reason).elim aged pressure
          rw [if_neg pressure]
          simp [Option.filter, reason]

variable {kernel : HistoryKernel} {state : MemoryJournalState} {now : Nat}
  {candidate other : ArchiveRetentionCandidate}

theorem mem_candidates :
    candidate ∈ (memoryArchiveSnapshot state now).candidates ↔
      state.archiveBytes.lookup candidate.runId = some candidate.bytes ∧
        ∃ completion, state.completions.lookup candidate.runId = some completion ∧
          retentionBaseline completion = candidate.baseline := by
  unfold memoryArchiveSnapshot
  dsimp only
  rw [List.mem_filterMap]
  constructor
  · rintro ⟨⟨runId, bytes⟩, listed, found⟩
    obtain ⟨completion, completed, rfl⟩ := Option.map_eq_some_iff.mp found
    exact ⟨AList.mem_lookup_iff.mpr listed, completion, completed, rfl⟩
  · rintro ⟨archived, completion, completed, baseline⟩
    refine ⟨⟨candidate.runId, candidate.bytes⟩, AList.mem_lookup_iff.mp archived, ?_⟩
    rw [Option.map_eq_some_iff]
    refine ⟨completion, completed, ?_⟩
    rw [baseline]

theorem candidate_eq_of_runId (member : candidate ∈ (memoryArchiveSnapshot state now).candidates)
    (member' : other ∈ (memoryArchiveSnapshot state now).candidates)
    (same : candidate.runId = other.runId) : candidate = other := by
  obtain ⟨archived, completion, completed, baseline⟩ := mem_candidates.mp member
  obtain ⟨archived', completion', completed', baseline'⟩ := mem_candidates.mp member'
  rw [same] at archived completed
  have bytes := Option.some.inj (archived.symm.trans archived')
  have completions := Option.some.inj (completed.symm.trans completed')
  obtain ⟨runId, place, size⟩ := candidate
  obtain ⟨runId', place', size'⟩ := other
  dsimp only at same bytes baseline baseline'
  rw [same, bytes, ← baseline, ← baseline', completions]

structure ArchivedRun (state : MemoryJournalState) (runId : RunId) (records : List JournalRecord)
    (completion : RunCompletion) : Prop where
  hot : (state.run runId).hot = none
  cold : (state.run runId).cold = some records
  completed : (state.run runId).completion = some completion
  kept : (state.run runId).deletion = none

theorem exists_archivedRun (consistent : state.Consistent kernel) {runId : RunId}
    (archived : (state.archiveBytes.lookup runId).isSome = true) :
    ∃ records completion, ArchivedRun state runId records completion := by
  have sound := consistent runId
  have cold : (state.run runId).cold.isSome = true := by
    rw [← sound.archivedCold]
    exact archived
  obtain ⟨records, cold⟩ := Option.isSome_iff_exists.mp cold
  cases completed : (state.run runId).completion with
  | none =>
      rw [sound.notCold_of_incomplete completed] at cold
      contradiction
  | some completion =>
      refine ⟨records, completion, ?_, cold, completed, ?_⟩
      · exact sound.hotOrCold.resolve_right (by simp [cold])
      · by_contra deleted
        have dropped := (sound.deletedCompleted (Option.isSome_iff_ne_none.mpr deleted)).2.2
        rw [cold] at dropped
        contradiction

theorem candidates_pairwise :
    (memoryArchiveSnapshot state now).candidates.Pairwise fun left right =>
      left.runId ≠ right.runId := by
  refine List.pairwise_filterMap.mpr
    ((List.nodupKeys_iff_pairwise.mp state.archiveBytes.nodupKeys).imp ?_)
  intro entry entry' apart found listed found' listed'
  obtain ⟨_, _, rfl⟩ := Option.map_eq_some_iff.mp listed
  obtain ⟨_, _, rfl⟩ := Option.map_eq_some_iff.mp listed'
  exact apart

theorem orderedCandidates_pairwise (state : MemoryJournalState) (now : Nat) :
    (orderedCandidates (memoryArchiveSnapshot state now)).Pairwise fun left right =>
      left.runId ≠ right.runId :=
  ((orderedCandidates_perm _).pairwise_iff fun apart => Ne.symm apart).mpr candidates_pairwise

theorem savedBytes_eq (consistent : state.Consistent kernel) :
    state.savedBytes = ((memoryArchiveSnapshot state now).candidates.map (·.bytes)).sum := by
  unfold MemoryJournalState.savedBytes memoryArchiveSnapshot
  dsimp only
  rw [List.map_filterMap, ← List.filterMap_eq_map]
  refine congrArg List.sum (List.filterMap_congr fun entry listed => ?_)
  have archived : state.archiveBytes.lookup entry.1 = some entry.2 := AList.mem_lookup_iff.mpr listed
  obtain ⟨_, completion, run⟩ := exists_archivedRun consistent (Option.isSome_of_eq_some archived)
  have completed : state.completions.lookup entry.1 = some completion := run.completed
  rw [completed]
  rfl

theorem memoryRemoveArchived_eq (consistent : state.Consistent kernel)
    (member : candidate ∈ (memoryArchiveSnapshot state now).candidates)
    {reason : RunHistoryDeletionReason}
    (due : retentionReason candidate now state.savedBytes = some reason) :
    memoryRemoveArchived kernel candidate now state =
      (.ok (), state.deleteArchived candidate.runId now (some reason)) := by
  obtain ⟨archived, completion, completed, baseline⟩ := mem_candidates.mp member
  obtain ⟨records, known, run⟩ :=
    exists_archivedRun consistent (Option.isSome_of_eq_some archived)
  obtain rfl : completion = known := Option.some.inj (completed.symm.trans run.completed)
  have inspected : (state.run candidate.runId).inspection candidate.runId =
      .completedRun completion .available := by
    rw [StoredRun.inspection, run.completed, run.kept]
  have cold : state.coldRecordsByRun.lookup candidate.runId = some records := run.cold
  have valid := (consistent candidate.runId).coldValid records run.cold
  have same : { candidate with baseline := retentionBaseline completion } = candidate := by
    rw [baseline]
  unfold memoryRemoveArchived
  rw [decideMemoryCompletion_eq consistent, inspected]
  dsimp only
  rw [cold]
  dsimp only
  rw [valid, same, due]

theorem orderedCandidates_deleteArchived {rest : List ArchiveRetentionCandidate}
    (ordered : orderedCandidates (memoryArchiveSnapshot state now) = candidate :: rest)
    (reason : RunHistoryDeletionReason) :
    orderedCandidates (memoryArchiveSnapshot
      (state.deleteArchived candidate.runId now (some reason)) now) = rest := by
  have listed : ∀ entry, entry ∈ (memoryArchiveSnapshot state now).candidates ↔
      entry = candidate ∨ entry ∈ rest := by
    intro entry
    rw [← (orderedCandidates_perm _).mem_iff, ordered, List.mem_cons]
  have left : ∀ entry, entry ∈ (memoryArchiveSnapshot
      (state.deleteArchived candidate.runId now (some reason)) now).candidates ↔
        entry ∈ (memoryArchiveSnapshot state now).candidates ∧ entry.runId ≠ candidate.runId := by
    intro entry
    rw [mem_candidates, mem_candidates]
    simp only [MemoryJournalState.deleteArchived, KeyedMap.lookup_erase_eq_ite]
    by_cases same : entry.runId = candidate.runId <;> simp [same]
  have distinct := orderedCandidates_pairwise state now
  rw [ordered] at distinct
  have sorted := orderedCandidates_sorted (memoryArchiveSnapshot state now)
  rw [ordered] at sorted
  have same : ∀ entry, entry ∈ orderedCandidates (memoryArchiveSnapshot
      (state.deleteArchived candidate.runId now (some reason)) now) ↔ entry ∈ rest := by
    intro entry
    rw [(orderedCandidates_perm _).mem_iff, left, listed]
    constructor
    · rintro ⟨rfl | member, apart⟩
      · exact absurd rfl apart
      · exact member
    · exact fun member => ⟨Or.inr member, Ne.symm ((List.pairwise_cons.mp distinct).1 entry member)⟩
  refine List.Perm.eq_of_pairwise ?_ (orderedCandidates_sorted _) (List.pairwise_cons.mp sorted).2 ?_
  · intro entry other member member' before behind
    refine @candidate_eq_of_runId state now _ _ ((listed _).mpr (Or.inr ((same _).mp member)))
      ((listed _).mpr (Or.inr member')) ?_
    exact runId_eq_of_retentionOrder before behind
  · refine (List.perm_ext_iff_of_nodup ?_ ?_).mpr same
    · refine (orderedCandidates_perm _).nodup_iff.mpr (candidates_pairwise.imp ?_)
      rintro entry _ apart rfl
      exact apart rfl
    · refine (List.pairwise_cons.mp distinct).2.imp ?_
      rintro entry _ apart rfl
      exact apart rfl

/-- Removal of a first part of the ordered candidates, each for its reason at that moment. -/
structure Removes (kernel : HistoryKernel) (now : Nat) (state : MemoryJournalState)
    (removed rest : List ArchiveRetentionCandidate) (after : MemoryJournalState) : Prop where
  ordered : orderedCandidates (memoryArchiveSnapshot state now) = removed ++ rest
  left : orderedCandidates (memoryArchiveSnapshot after now) = rest
  consistent : after.Consistent kernel
  /-- The bytes saved at the moment of a removal are those of all candidates not yet removed. -/
  dropped : ∀ earlier candidate later, removed = earlier ++ candidate :: later →
    ∃ reason,
      retentionReason candidate now (((candidate :: later) ++ rest).map (·.bytes)).sum =
          some reason ∧
        after.run candidate.runId =
          { state.run candidate.runId with
            cold := none, archived := false, deletion := some ⟨reason, now⟩ }
  kept : ∀ runId, (∀ candidate ∈ removed, candidate.runId ≠ runId) →
    after.run runId = state.run runId ∧
      after.archiveBytes.lookup runId = state.archiveBytes.lookup runId

namespace Removes

variable {next after : MemoryJournalState} {removed rest : List ArchiveRetentionCandidate}

theorem nothing (consistent : state.Consistent kernel) :
    Removes kernel now state [] (orderedCandidates (memoryArchiveSnapshot state now)) state where
  ordered := rfl
  left := rfl
  consistent := consistent
  dropped := by
    intro earlier candidate later absurdity
    simp at absurdity
  kept := fun _ _ => ⟨rfl, rfl⟩

theorem savedBytes_eq_sum (consistent : state.Consistent kernel) :
    state.savedBytes =
      ((orderedCandidates (memoryArchiveSnapshot state now)).map (·.bytes)).sum := by
  rw [@savedBytes_eq kernel state now consistent]
  exact ((orderedCandidates_perm _).map _).symm.sum_eq

theorem cons (consistent : state.Consistent kernel) {others : List ArchiveRetentionCandidate}
    (ordered : orderedCandidates (memoryArchiveSnapshot state now) = candidate :: others)
    {reason : RunHistoryDeletionReason}
    (due : retentionReason candidate now state.savedBytes = some reason)
    (removes : Removes kernel now
      (state.deleteArchived candidate.runId now (some reason)) removed rest after) :
    Removes kernel now state (candidate :: removed) rest after := by
  have others_eq : others = removed ++ rest := by
    rw [← removes.ordered]
    exact (orderedCandidates_deleteArchived ordered reason).symm
  have distinct := orderedCandidates_pairwise state now
  rw [ordered, List.pairwise_cons] at distinct
  have apart : ∀ entry ∈ removed, entry.runId ≠ candidate.runId := by
    intro entry member
    refine Ne.symm (distinct.1 entry ?_)
    rw [others_eq]
    exact List.mem_append_left rest member
  have run := run_deleteArchived state candidate.runId now reason
  refine ⟨?_, removes.left, removes.consistent, ?_, ?_⟩
  · rw [ordered, others_eq, List.cons_append]
  · intro earlier entry later split
    cases earlier with
    | nil =>
        -- The first Run is dropped now, and nothing behind it is the same Run.
        rw [List.nil_append, List.cons.injEq] at split
        obtain ⟨rfl, rfl⟩ := split
        refine ⟨reason, ?_, ?_⟩
        · rw [savedBytes_eq_sum consistent, ordered, others_eq] at due
          exact due
        · rw [(removes.kept _ apart).1, run, Function.update_self]
    | cons first earlier =>
        rw [List.cons_append, List.cons.injEq] at split
        obtain ⟨rfl, split⟩ := split
        obtain ⟨cause, found, dropped⟩ := removes.dropped earlier entry later split
        have member : entry ∈ removed := by
          rw [split]
          exact List.mem_append_right earlier List.mem_cons_self
        refine ⟨cause, found, ?_⟩
        rw [dropped, run, Function.update_of_ne (apart entry member)]
  · intro runId absent
    have differs : runId ≠ candidate.runId := Ne.symm (absent candidate List.mem_cons_self)
    obtain ⟨same, bytes⟩ := removes.kept runId fun entry member =>
      absent entry (List.mem_cons_of_mem candidate member)
    refine ⟨?_, ?_⟩
    · rw [same, run, Function.update_of_ne differs]
    · rw [bytes]
      exact AList.lookup_erase_ne differs

end Removes

/-- How the owner of the store answers one unit: the unit runs, or a failure cuts it before or after
its commit. -/
inductive UnitAnswer where
  | performed
  | refused (failure : JournalStoreFailure)
  | unacknowledged (failure : JournalStoreFailure)

/-- The removal step of a pass, cut where the owner of the store cuts it. -/
def answeredRemoveArchived (kernel : HistoryKernel)
    (answer : ArchiveRetentionCandidate → Nat → MemoryJournalState → UnitAnswer)
    (candidate : ArchiveRetentionCandidate) (now : Nat) (state : MemoryJournalState) :
    Except JournalStoreFailure Unit × MemoryJournalState :=
  match answer candidate now state with
  | .performed => memoryRemoveArchived kernel candidate now state
  | .refused failure => (.error failure, state)
  | .unacknowledged failure => (.error failure, (memoryRemoveArchived kernel candidate now state).2)

/-- Units of a pass remove a first part of the candidates and report what was acknowledged. -/
structure UnitsOutcome (kernel : HistoryKernel) (now remaining : Nat) (deletedRuns : List RunId)
    (state : MemoryJournalState) (removed rest : List ArchiveRetentionCandidate)
    (pass : ArchivePassEnd MemoryJournalState) : Prop where
  removes : Removes kernel now state removed rest pass.state
  reported : pass.deletedRuns <+: deletedRuns ++ removed.map (·.runId)
  attempts : pass.deletedRuns.length + (if pass.failure.isSome then 1 else 0) ≤
    deletedRuns.length + remaining
  size : removed.length ≤ remaining
  acknowledged : pass.failure = none →
    pass.deletedRuns = deletedRuns ++ removed.map (·.runId) ∧
      pass.observed = memoryArchiveSnapshot pass.state now
  finished : pass.failure = none → pass.bounded = false →
    selectArchiveCandidate pass.observed now = none

theorem selectArchiveCandidate_eq_some
    (selected : selectArchiveCandidate (memoryArchiveSnapshot state now) now = some candidate) :
    ∃ others reason,
      orderedCandidates (memoryArchiveSnapshot state now) = candidate :: others ∧
        retentionReason candidate now state.savedBytes = some reason := by
  rw [selectArchiveCandidate_eq, Option.filter_eq_some_iff] at selected
  obtain ⟨head, due⟩ := selected
  obtain ⟨reason, due⟩ := Option.isSome_iff_exists.mp due
  obtain ⟨others, ordered⟩ := List.head?_eq_some_iff.mp head
  exact ⟨others, reason, ordered, due⟩

theorem within_of_selectArchiveCandidate_eq_none (consistent : state.Consistent kernel)
    (selected : selectArchiveCandidate (memoryArchiveSnapshot state now) now = none) :
    (∀ candidate ∈ (memoryArchiveSnapshot state now).candidates,
        now < candidate.baseline + archiveAgeMillis) ∧
      state.savedBytes ≤ archiveByteBudget := by
  rw [selectArchiveCandidate_eq] at selected
  have sorted := orderedCandidates_sorted (memoryArchiveSnapshot state now)
  have bytes := @Removes.savedBytes_eq_sum kernel state now consistent
  cases ordered : orderedCandidates (memoryArchiveSnapshot state now) with
  | nil =>
      have empty : (memoryArchiveSnapshot state now).candidates = [] := by
        rw [← List.perm_nil, ← ordered]
        exact (orderedCandidates_perm _).symm
      rw [ordered] at bytes
      refine ⟨?_, bytes ▸ Nat.zero_le _⟩
      rw [empty]
      exact fun candidate member => absurd member List.not_mem_nil
  | cons first others =>
      rw [ordered, List.head?_cons, Option.filter_eq_none_iff] at selected
      have kept : ¬ (retentionReason first now state.savedBytes).isSome = true := selected first rfl
      rw [retentionReason_isSome, not_or] at kept
      obtain ⟨unexpired, within⟩ := kept
      refine ⟨?_, Nat.le_of_not_lt within⟩
      intro candidate member
      rw [← (orderedCandidates_perm _).mem_iff, ordered, List.mem_cons] at member
      rw [ordered, List.pairwise_cons] at sorted
      obtain rfl | later := member
      · exact Nat.lt_of_not_le unexpired
      · have baselines : first.baseline ≤ candidate.baseline :=
          (retentionOrder_iff.mp (sorted.1 candidate later)).elim Nat.le_of_lt
            fun same => Nat.le_of_eq same.1
        exact lt_of_lt_of_le (Nat.lt_of_not_le unexpired) (Nat.add_le_add_right baselines _)

section Units

variable {answer : ArchiveRetentionCandidate → Nat → MemoryJournalState → UnitAnswer}
  {clock : Nat → Nat}

theorem UnitsOutcome.stopped (consistent : state.Consistent kernel) {remaining : Nat}
    {deletedRuns : List RunId} {bounded : Bool}
    (finished : bounded = false →
      selectArchiveCandidate (memoryArchiveSnapshot state now) now = none) :
    UnitsOutcome kernel now remaining deletedRuns state []
      (orderedCandidates (memoryArchiveSnapshot state now))
      ⟨memoryArchiveSnapshot state now, deletedRuns, none, bounded, state⟩ where
  removes := Removes.nothing consistent
  reported := by simp
  attempts := by simp
  size := Nat.zero_le _
  acknowledged := fun _ => ⟨by simp, rfl⟩
  finished := fun _ => finished

theorem UnitsOutcome.cons (consistent : state.Consistent kernel) {remaining : Nat}
    {deletedRuns : List RunId} {others removed rest : List ArchiveRetentionCandidate}
    {pass : ArchivePassEnd MemoryJournalState}
    (ordered : orderedCandidates (memoryArchiveSnapshot state now) = candidate :: others)
    {reason : RunHistoryDeletionReason}
    (due : retentionReason candidate now state.savedBytes = some reason)
    (outcome : UnitsOutcome kernel now remaining (deletedRuns ++ [candidate.runId])
      (state.deleteArchived candidate.runId now (some reason)) removed rest pass) :
    UnitsOutcome kernel now (remaining + 1) deletedRuns state (candidate :: removed) rest pass where
  removes := Removes.cons consistent ordered due outcome.removes
  reported := by
    have reported := outcome.reported
    rwa [List.append_assoc] at reported
  attempts := by
    have attempts := outcome.attempts
    rw [List.length_append, List.length_singleton] at attempts
    omega
  size := Nat.succ_le_succ outcome.size
  acknowledged := by
    intro succeeded
    have acknowledged := outcome.acknowledged succeeded
    rwa [List.append_assoc] at acknowledged
  finished := outcome.finished

theorem archiveRetentionUnits_outcome (remaining : Nat) (deletedRuns : List RunId)
    (consistent : state.Consistent kernel) :
    ∃ removed rest, UnitsOutcome kernel now remaining deletedRuns state removed rest
      (archiveRetentionUnits memoryArchiveSnapshot (answeredRemoveArchived kernel answer) now clock
        remaining deletedRuns state) := by
  induction remaining generalizing deletedRuns state with
  | zero =>
      unfold archiveRetentionUnits
      dsimp only
      cases selected : selectArchiveCandidate (memoryArchiveSnapshot state now) now with
      | none => exact ⟨_, _, UnitsOutcome.stopped consistent fun _ => selected⟩
      | some candidate =>
          exact ⟨_, _, UnitsOutcome.stopped consistent fun unbounded => absurd unbounded (by decide)⟩
  | succ remaining induction =>
      unfold archiveRetentionUnits
      dsimp only
      cases selected : selectArchiveCandidate (memoryArchiveSnapshot state now) now with
      | none => exact ⟨_, _, UnitsOutcome.stopped consistent fun _ => selected⟩
      | some candidate =>
          dsimp only
          split_ifs with late
          · exact ⟨_, _, UnitsOutcome.stopped consistent fun unbounded => absurd unbounded (by decide)⟩
          · obtain ⟨others, reason, ordered, due⟩ := selectArchiveCandidate_eq_some selected
            have member : candidate ∈ (memoryArchiveSnapshot state now).candidates := by
              rw [← (orderedCandidates_perm _).mem_iff, ordered]
              exact List.mem_cons_self
            have removal := memoryRemoveArchived_eq consistent member due
            have next : (state.deleteArchived candidate.runId now (some reason)).Consistent kernel := by
              have change := memoryRemoveArchived_change consistent candidate now
              rw [removal] at change
              exact change.consistent consistent
            unfold answeredRemoveArchived
            cases answer candidate now state with
            | performed =>
                dsimp only
                rw [removal]
                dsimp only
                obtain ⟨removed, rest, outcome⟩ := induction (deletedRuns ++ [candidate.runId]) next
                exact ⟨candidate :: removed, rest, outcome.cons consistent ordered due⟩
            | refused failure =>
                -- Nothing was committed.
                refine ⟨[], _, Removes.nothing consistent, by simp, by simp, Nat.zero_le _, ?_, ?_⟩
                · intro succeeded
                  contradiction
                · intro succeeded
                  contradiction
            | unacknowledged failure =>
                -- The Run is dropped without being reported.
                dsimp only
                rw [removal]
                refine ⟨[candidate], _, (Removes.nothing next).cons consistent ordered due, ?_, ?_,
                  Nat.succ_le_succ (Nat.zero_le _), ?_, ?_⟩
                · exact List.prefix_append _ _
                · simp
                · intro succeeded
                  contradiction
                · intro succeeded
                  contradiction

theorem idle_of_mem_candidates (consistent : state.Consistent kernel)
    (member : candidate ∈ (memoryArchiveSnapshot state now).candidates) :
    (state.run candidate.runId).hot = none ∧
      (state.run candidate.runId).completion.isSome = true := by
  obtain ⟨archived, _⟩ := mem_candidates.mp member
  obtain ⟨records, completion, run⟩ :=
    exists_archivedRun consistent (Option.isSome_of_eq_some archived)
  exact ⟨run.hot, Option.isSome_of_eq_some run.completed⟩

/-- A pass removes a first part of the candidates in order, each for its reason at that moment,
whatever the answers of the removal step are; it touches no other Run, and without a deferral it
leaves no expired candidate and no more bytes than the budget. -/
theorem archiveRetentionPass_exact (now : Nat) (clock : Nat → Nat)
    (answer : ArchiveRetentionCandidate → Nat → MemoryJournalState → UnitAnswer)
    (start : { state : MemoryJournalState // state.Consistent kernel }) :
    let state := start.1
    let candidates := (memoryArchiveSnapshot state now).candidates
    let pass := archiveRetentionPass memoryArchiveSnapshot (answeredRemoveArchived kernel answer)
      now clock state
    let observation := pass.1
    let after := pass.2
    ∃ removed rest : List ArchiveRetentionCandidate,
      (removed ++ rest).Perm candidates ∧
      (removed ++ rest).Pairwise (fun left right => retentionOrder left right = true) ∧
      removed.length ≤ archivePassRunLimit ∧
      observation.deletedRuns.length + (if observation.failure.isSome then 1 else 0) ≤
        archivePassRunLimit ∧
      observation.deletedRuns.Nodup ∧
      observation.deletedRuns <+: removed.map (·.runId) ∧
      (observation.failure = none → observation.deletedRuns = removed.map (·.runId)) ∧
      (∀ earlier candidate later, removed = earlier ++ candidate :: later →
        ∃ reason,
          retentionReason candidate now (((candidate :: later) ++ rest).map (·.bytes)).sum =
              some reason ∧
            after.run candidate.runId =
              { state.run candidate.runId with
                cold := none, archived := false, deletion := some ⟨reason, now⟩ }) ∧
      (∀ runId, (∀ candidate ∈ removed, candidate.runId ≠ runId) →
        after.run runId = state.run runId ∧
          after.archiveBytes.lookup runId = state.archiveBytes.lookup runId) ∧
      (∀ runId, (state.run runId).hot.isSome = true ∨ (state.run runId).completion = none →
        after.run runId = state.run runId) ∧
      (observation.deferred = .none →
        (∀ candidate ∈ (memoryArchiveSnapshot after now).candidates,
            now < candidate.baseline + archiveAgeMillis) ∧
          after.savedBytes ≤ archiveByteBudget ∧
          observation.savedBytes = after.savedBytes) := by
  obtain ⟨state, consistent⟩ := start
  dsimp only
  unfold archiveRetentionPass
  dsimp only
  obtain ⟨removed, rest, outcome⟩ :=
    @archiveRetentionUnits_outcome kernel state now answer clock archivePassRunLimit [] consistent
  generalize archiveRetentionUnits memoryArchiveSnapshot (answeredRemoveArchived kernel answer) now
    clock archivePassRunLimit [] state = pass at outcome ⊢
  have removes := outcome.removes
  have sorted := orderedCandidates_sorted (memoryArchiveSnapshot state now)
  have permuted := orderedCandidates_perm (memoryArchiveSnapshot state now)
  have apart := orderedCandidates_pairwise state now
  rw [removes.ordered] at sorted permuted apart
  have distinct : (removed.map (·.runId)).Nodup :=
    List.pairwise_map.mpr (apart.sublist (List.sublist_append_left removed rest))
  have attempts := outcome.attempts
  rw [List.length_nil, Nat.zero_add] at attempts
  refine ⟨removed, rest, permuted, sorted, outcome.size, attempts,
    distinct.sublist outcome.reported.sublist, outcome.reported,
    fun succeeded => (outcome.acknowledged succeeded).1, removes.dropped, removes.kept, ?_, ?_⟩
  · intro runId idle
    refine (removes.kept runId ?_).1
    rintro candidate member rfl
    have listed := permuted.mem_iff.mp (List.mem_append_left rest member)
    obtain ⟨cold, completed⟩ := idle_of_mem_candidates consistent listed
    obtain hot | incomplete := idle
    · rw [cold] at hot
      contradiction
    · rw [incomplete] at completed
      contradiction
  · intro undeferred
    have succeeded : pass.failure = none := by
      by_contra failed
      rw [if_pos (Option.isSome_iff_ne_none.mpr failed)] at undeferred
      contradiction
    have unbounded : pass.bounded = false := by
      by_contra bounded
      rw [succeeded, if_neg (by simp), if_pos (by simpa using bounded)] at undeferred
      contradiction
    have observed := (outcome.acknowledged succeeded).2
    have selected := outcome.finished succeeded unbounded
    rw [observed] at selected
    obtain ⟨unexpired, within⟩ := within_of_selectArchiveCandidate_eq_none removes.consistent selected
    refine ⟨unexpired, within, ?_⟩
    rw [observed]
    rfl

end Units

end Dalph
