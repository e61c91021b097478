import Dalph.Foundation.FinalRun
import Dalph.Foundation.Log
import Dalph.Foundation.PersistentSequence
import Dalph.WorkflowJournal.RunLifecycle

/-!
# Divergence of authored specifications

A specification that was once observed to differ invalidates an earlier choice for good, even where
its fingerprint returns.  Each observation keeps the last one before it that had another
fingerprint, so two observations answer for all that are visible.
-/

namespace Dalph

open PersistentSequence (Increasing)

/-- Observations of one task, and the preceding one with another fingerprint by position. -/
structure SpecificationBucket where
  observations : PersistentSequence JournalRecord
  precedingDistinct : KeyedMap JournalPosition JournalRecord

/-- Buckets by task, and by task and target. -/
abbrev SpecificationDivergence := KeyedMap String SpecificationBucket

def emptySpecificationDivergence : SpecificationDivergence := ∅

def specificationBucketKey (taskId : TaskId) (target : Option TrackerTarget) : String :=
  Json.stringify (.arr [.str taskId.value,
    match target with
    | none => .null
    | some target => .str (taskTrackerTargetKey target)])

def specificationFacts? (record : JournalRecord) :
    Option FocusedTaskWorkSpecificationFactsObserved :=
  match record.trackerFacts? with
  | some (.focusedTaskWorkSpecificationFacts facts) => some facts
  | _ => none

def specificationFingerprint? (record : JournalRecord) : Option TaskRevision :=
  (specificationFacts? record).map (·.fingerprint)

namespace SpecificationBucket

def empty : SpecificationBucket := ⟨.empty, ∅⟩

def distinctBefore (bucket : SpecificationBucket) (record : JournalRecord) : Option JournalRecord :=
  match bucket.observations.get (-1) with
  | none => none
  | some latest =>
      if specificationFingerprint? latest ≠ specificationFingerprint? record then some latest
      else bucket.precedingDistinct.lookup latest.position

def append (bucket : SpecificationBucket) (record : JournalRecord) : SpecificationBucket where
  observations := bucket.observations.append record
  precedingDistinct :=
    match bucket.distinctBefore record with
    | none => bucket.precedingDistinct
    | some distinct => bucket.precedingDistinct.set record.position distinct

end SpecificationBucket

def specificationBucket (index : SpecificationDivergence) (key : String) : SpecificationBucket :=
  (index.lookup key).getD .empty

def appendSpecificationDivergence (index : SpecificationDivergence) (record : JournalRecord) :
    SpecificationDivergence :=
  match specificationFacts? record with
  | none => index
  | some facts =>
      [specificationBucketKey facts.taskId none,
        specificationBucketKey facts.taskId (some facts.target)].foldl
          (fun roots key => KeyedMap.set roots key ((specificationBucket roots key).append record))
          index

def specificationDivergenceFrom (records : List JournalRecord) : SpecificationDivergence :=
  records.foldl appendSpecificationDivergence emptySpecificationDivergence

/-- What is asked about the specification of a task. -/
structure SpecificationDivergenceQuery where
  taskId : TaskId
  target : Option TrackerTarget
  expected : TaskRevision
  afterPosition : Int
  throughPosition : Int

/-- A differing specification was observed behind a position and up to a cutoff. -/
def SpecificationDivergence.specificationDivergedAfter (index : SpecificationDivergence)
    (query : SpecificationDivergenceQuery) : Bool :=
  match index.lookup (specificationBucketKey query.taskId query.target) with
  | none => false
  | some bucket =>
      match bucket.observations.lastVisible (·.position) query.throughPosition with
      | none => false
      | some latest =>
          let differing :=
            if specificationFingerprint? latest ≠ some query.expected then some latest
            else bucket.precedingDistinct.lookup latest.position
          differing.any fun differing => differing.position > query.afterPosition

def SpecificationDivergence.observes (taskId : TaskId) (target : Option TrackerTarget)
    (record : JournalRecord) : Bool :=
  (specificationFacts? record).any fun facts =>
    facts.taskId = taskId && target.all (facts.target = ·)

def SameFingerprint (left right : JournalRecord) : Prop :=
  specificationFingerprint? left = specificationFingerprint? right

instance : IsTrans JournalRecord SameFingerprint := ⟨fun _ _ _ => Eq.trans⟩

instance : Std.Symm SameFingerprint := ⟨fun _ _ => Eq.symm⟩

section

variable {records observations : List JournalRecord} {record latest : JournalRecord}
  {bucket : SpecificationBucket} {index : SpecificationDivergence}

theorem specificationBucketKey_inj {taskId other : TaskId} {target target' : Option TrackerTarget}
    (same : specificationBucketKey taskId target = specificationBucketKey other target') :
    taskId = other ∧ target = target' := by
  have wellFormed : ∀ (taskId : TaskId) (target : Option TrackerTarget),
      Json.WellFormed (.arr [.str taskId.value,
        match target with
        | none => .null
        | some target => .str (taskTrackerTargetKey target)]) := by
    intro taskId target
    cases target <;> exact .arr (by simp [Json.WellFormed.str, Json.WellFormed.null])
  have values := Json.stringify_injective (wellFormed taskId target) (wellFormed other target') same
  obtain ⟨_⟩ := taskId
  obtain ⟨_⟩ := other
  cases target <;> cases target' <;> simp_all [taskTrackerTargetKey_injective.eq_iff]

/-- A bucket has its observations, and for each of them what stands before its final run. -/
structure SpecificationBucket.Shows (bucket : SpecificationBucket)
    (observations : List JournalRecord) : Prop where
  listed : bucket.observations.toList = observations
  preceding : ∀ earlier record later, observations = earlier ++ record :: later →
    ∃ before run, earlier ++ [record] = before ++ run ∧ FinalRun SameFingerprint before run ∧
      bucket.precedingDistinct.lookup record.position = before.getLast?
  bounded : ∀ position, bucket.precedingDistinct.lookup position ≠ none →
    ∃ record ∈ observations, record.position = position

theorem SpecificationBucket.shows_empty : SpecificationBucket.empty.Shows [] where
  listed := rfl
  preceding := fun _ _ _ impossible => absurd impossible (by simp)
  bounded := fun _ found => absurd rfl found

theorem SpecificationBucket.Shows.distinctBefore_spec (shows : bucket.Shows observations)
    (record : JournalRecord) :
    ∃ before run, observations ++ [record] = before ++ run ∧ FinalRun SameFingerprint before run ∧
      bucket.distinctBefore record = before.getLast? := by
  unfold SpecificationBucket.distinctBefore
  rw [PersistentSequence.get_neg_one, shows.listed]
  obtain rfl | ⟨earlier, latest, rfl⟩ := List.eq_nil_or_concat observations
  · exact ⟨[], [record], rfl, .single record, rfl⟩
  · rw [List.concat_eq_append] at shows ⊢
    obtain ⟨before, run, split, final, kept⟩ := shows.preceding earlier latest [] rfl
    have ends := final.ends split
    rw [List.getLast?_concat]
    dsimp only
    by_cases alike : specificationFingerprint? latest = specificationFingerprint? record
    · rw [if_neg (not_not_intro alike), split]
      exact ⟨before, run ++ [record], List.append_assoc before run [record],
        final.join ends alike, kept⟩
    · rw [if_pos alike, split]
      refine ⟨before ++ run, [record], rfl, final.start ends alike, ?_⟩
      rw [List.getLast?_append_of_ne_nil _ final.nonempty, ends]

theorem SpecificationBucket.Shows.append (shows : bucket.Shows observations)
    (last : ∀ earlier ∈ observations, earlier.position < record.position) :
    (bucket.append record).Shows (observations ++ [record]) := by
  obtain ⟨before, run, split, final, distinct⟩ := shows.distinctBefore_spec record
  have fresh : bucket.precedingDistinct.lookup record.position = none := by
    by_contra found
    obtain ⟨earlier, member, same⟩ := shows.bounded record.position found
    exact Nat.ne_of_lt (last earlier member) same
  have looked : ∀ position, (bucket.append record).precedingDistinct.lookup position =
      if position = record.position then before.getLast?
      else bucket.precedingDistinct.lookup position := by
    intro position
    unfold SpecificationBucket.append
    rw [distinct]
    cases before.getLast? with
    | none =>
        split_ifs with here
        · rw [here]
          exact fresh
        · rfl
    | some differing =>
        dsimp only
        rw [KeyedMap.lookup_set]
  refine ⟨?_, fun earlier other later shape => ?_, fun position found => ?_⟩
  · exact (PersistentSequence.toList_append record).trans (by rw [shows.listed])
  · rw [looked]
    obtain ⟨rfl, rfl⟩ | ⟨rest, inner⟩ := Log.split_concat shape
    · rw [if_pos rfl]
      exact ⟨before, run, split, final, rfl⟩
    · have member : other ∈ observations := by simp [inner]
      rw [if_neg (Nat.ne_of_lt (last other member))]
      exact shows.preceding earlier other rest inner
  · rw [looked] at found
    split_ifs at found with here
    · exact ⟨record, by simp, here.symm⟩
    · obtain ⟨other, member, same⟩ := shows.bounded position found
      exact ⟨other, List.mem_append_left _ member, same⟩

def SpecificationDivergence.Shows (index : SpecificationDivergence)
    (records : List JournalRecord) : Prop :=
  ∀ taskId target, (specificationBucket index (specificationBucketKey taskId target)).Shows
    (records.filter (SpecificationDivergence.observes taskId target))

theorem specificationBucket_set (index : SpecificationDivergence) (key other : String)
    (bucket : SpecificationBucket) :
    specificationBucket (KeyedMap.set index key bucket) other =
      if other = key then bucket else specificationBucket index other := by
  unfold specificationBucket
  rw [KeyedMap.lookup_set]
  split_ifs <;> rfl

theorem SpecificationDivergence.Shows.append (shows : index.Shows records)
    (last : ∀ earlier ∈ records, earlier.position < record.position) :
    (appendSpecificationDivergence index record).Shows (records ++ [record]) := by
  intro taskId target
  have before : ∀ earlier ∈ records.filter (SpecificationDivergence.observes taskId target),
      earlier.position < record.position := fun earlier member =>
    last earlier (List.mem_filter.mp member).1
  rw [List.filter_append]
  unfold appendSpecificationDivergence
  cases observed : specificationFacts? record with
  | none => simpa [SpecificationDivergence.observes, observed] using shows taskId target
  | some facts =>
      have apart : specificationBucketKey facts.taskId (some facts.target) ≠
          specificationBucketKey facts.taskId none := fun same => by
        cases (specificationBucketKey_inj same).2
      simp only [List.foldl_cons, List.foldl_nil, specificationBucket_set, if_neg apart]
      by_cases own : SpecificationDivergence.observes taskId target record
      · rw [List.filter_cons_of_pos own, List.filter_nil]
        have appended := (shows taskId target).append before
        simp only [SpecificationDivergence.observes, observed, Option.any_some, Bool.and_eq_true,
          decide_eq_true_eq] at own
        obtain ⟨rfl, own⟩ := own
        cases target with
        | none =>
            rw [if_neg apart.symm, if_pos rfl]
            exact appended
        | some target =>
            obtain rfl : facts.target = target := by simpa using own
            rw [if_pos rfl]
            exact appended
      · rw [List.filter_cons_of_neg own, List.filter_nil, List.append_nil, if_neg, if_neg]
        · exact shows taskId target
        · intro same
          obtain ⟨rfl, rfl⟩ := specificationBucketKey_inj same
          exact own (by simp [SpecificationDivergence.observes, observed])
        · intro same
          obtain ⟨rfl, rfl⟩ := specificationBucketKey_inj same
          exact own (by simp [SpecificationDivergence.observes, observed])

theorem shows_specificationDivergenceFrom
    (increasing : Increasing JournalRecord.position records) :
    (specificationDivergenceFrom records).Shows records := by
  induction records using List.reverseRecOn with
  | nil => exact fun _ _ => SpecificationBucket.shows_empty
  | append_singleton records record induction =>
      obtain ⟨earlier, _, last⟩ := List.pairwise_append.mp increasing
      rw [specificationDivergenceFrom, List.foldl_append]
      exact (induction earlier).append fun before member => last before member record (by simp)

def SpecificationBucket.divergedAfter (bucket : SpecificationBucket)
    (query : SpecificationDivergenceQuery) : Bool :=
  (bucket.observations.lastVisible JournalRecord.position query.throughPosition).any fun latest =>
    (if specificationFingerprint? latest ≠ some query.expected then some latest
      else bucket.precedingDistinct.lookup latest.position).any fun differing =>
        differing.position > query.afterPosition

theorem SpecificationDivergence.specificationDivergedAfter_eq (index : SpecificationDivergence)
    (query : SpecificationDivergenceQuery) :
    index.specificationDivergedAfter query =
      (specificationBucket index (specificationBucketKey query.taskId query.target)).divergedAfter
        query := by
  unfold SpecificationDivergence.specificationDivergedAfter specificationBucket
    SpecificationBucket.divergedAfter
  cases index.lookup (specificationBucketKey query.taskId query.target) with
  | none => rfl
  | some bucket =>
      dsimp only [Option.getD_some]
      cases bucket.observations.lastVisible JournalRecord.position query.throughPosition <;> rfl

/-- The last observation that has another fingerprint answers for all of them. -/
theorem SpecificationBucket.Shows.divergedAfter_iff (shows : bucket.Shows observations)
    (increasing : Increasing JournalRecord.position observations)
    (query : SpecificationDivergenceQuery) :
    bucket.divergedAfter query = true ↔
      ∃ record ∈ observations, (record.position : Int) ≤ query.throughPosition ∧
        query.afterPosition < record.position ∧
        specificationFingerprint? record ≠ some query.expected := by
  have ordered : Increasing JournalRecord.position bucket.observations.toList := by
    rwa [shows.listed]
  unfold SpecificationBucket.divergedAfter
  rw [PersistentSequence.lastVisible_eq ordered, shows.listed]
  obtain ⟨later, split⟩ := increasing.exists_filter_append query.throughPosition
  obtain none | ⟨earlier, latest, listed⟩ := List.eq_nil_or_concat
    (observations.filter fun record => decide ((record.position : Int) ≤ query.throughPosition))
  · rw [none]
    refine ⟨fun impossible => (by simp at impossible), ?_⟩
    rintro ⟨record, member, through, _⟩
    exact absurd through (by simpa using List.filter_eq_nil_iff.mp none record member)
  · rw [List.concat_eq_append] at listed
    rw [listed, List.append_assoc, List.singleton_append] at split
    -- the visible observations are those of the list that ends with the latest one
    have visible : ∀ record, record ∈ earlier ++ [latest] ↔
        record ∈ observations ∧ (record.position : Int) ≤ query.throughPosition := by
      intro record
      rw [← listed, List.mem_filter, decide_eq_true_eq]
    have sorted : Increasing JournalRecord.position (earlier ++ [latest]) := by
      rw [← listed]
      exact increasing.sublist List.filter_sublist
    have restate : (∃ record ∈ observations, (record.position : Int) ≤ query.throughPosition ∧
        query.afterPosition < record.position ∧
          specificationFingerprint? record ≠ some query.expected) ↔
        ∃ record ∈ earlier ++ [latest], query.afterPosition < record.position ∧
          specificationFingerprint? record ≠ some query.expected := by
      simp only [visible, and_assoc]
    rw [restate, listed, List.getLast?_concat, Option.any_some]
    obtain ⟨before, run, shape, final, kept⟩ := shows.preceding earlier latest later split
    have ends := final.ends shape
    by_cases expected : specificationFingerprint? latest = some query.expected
    · rw [if_neg (not_not_intro expected), kept]
      have inside : ∀ record ∈ earlier ++ [latest],
          specificationFingerprint? record ≠ some query.expected → record ∈ before := by
        intro record member differs
        rw [shape] at member
        refine (List.mem_append.mp member).resolve_right fun within => differs ?_
        obtain rfl | same := final.alike_last ends within
        · exact expected
        · exact Eq.trans same expected
      obtain rfl | ⟨first, differing, rfl⟩ := List.eq_nil_or_concat before
      · refine ⟨fun impossible => (by simp at impossible), ?_⟩
        rintro ⟨record, member, _, differs⟩
        exact absurd (inside record member differs) List.not_mem_nil
      · rw [List.concat_eq_append] at shape inside final ⊢
        have apart : specificationFingerprint? differing ≠ some query.expected := fun same =>
          final.not_alike_last List.getLast?_concat ends (Eq.trans same expected.symm)
        rw [List.getLast?_concat, Option.any_some, decide_eq_true_eq]
        refine ⟨fun behind => ⟨differing, by simp [shape], behind, apart⟩, ?_⟩
        rintro ⟨record, member, behind, differs⟩
        rw [shape] at sorted
        obtain before | here := Log.mem_concat.mp (inside record member differs)
        · have within := (List.pairwise_append.mp sorted).1
          have := (List.pairwise_append.mp within).2.2 record before differing (by simp)
          omega
        · rwa [← here]
    · rw [if_pos expected, Option.any_some, decide_eq_true_eq]
      refine ⟨fun behind => ⟨latest, by simp, behind, expected⟩, ?_⟩
      rintro ⟨record, member, behind, _⟩
      obtain inside | here := Log.mem_concat.mp member
      · have := (List.pairwise_append.mp sorted).2.2 record inside latest (by simp)
        omega
      · rwa [← here]

end

/-- At every cutoff, a divergence is reported where a visible observation behind the position has
another fingerprint, whatever the fingerprint did since. -/
theorem specificationDivergedAfter_iff_observed (records : List JournalRecord)
    (increasing : Increasing JournalRecord.position records)
    (query : SpecificationDivergenceQuery) :
    (specificationDivergenceFrom records).specificationDivergedAfter query = true ↔
      ∃ record ∈ records, ∃ facts, specificationFacts? record = some facts ∧
        facts.taskId = query.taskId ∧ (∀ target ∈ query.target, facts.target = target) ∧
        (record.position : Int) ≤ query.throughPosition ∧
        query.afterPosition < record.position ∧ facts.fingerprint ≠ query.expected := by
  have shows := shows_specificationDivergenceFrom increasing query.taskId query.target
  have ordered : Increasing JournalRecord.position
      (records.filter (SpecificationDivergence.observes query.taskId query.target)) :=
    increasing.sublist List.filter_sublist
  rw [SpecificationDivergence.specificationDivergedAfter_eq, shows.divergedAfter_iff ordered]
  constructor
  · rintro ⟨record, member, through, behind, differs⟩
    obtain ⟨recorded, observes⟩ := List.mem_filter.mp member
    obtain ⟨facts, found, about⟩ := (Option.any_eq_true _ _).mp observes
    simp only [Bool.and_eq_true, decide_eq_true_eq] at about
    refine ⟨record, recorded, facts, found, about.1, ?_, through, behind, ?_⟩
    · intro target given
      rw [Option.mem_def.mp given] at about
      simpa using about.2
    · intro same
      exact differs (by simp [specificationFingerprint?, found, same])
  · rintro ⟨record, recorded, facts, found, task, target, through, behind, differs⟩
    refine ⟨record, List.mem_filter.mpr ⟨recorded, ?_⟩, through, behind, ?_⟩
    · simp only [SpecificationDivergence.observes, found, Option.any_some, task, decide_true,
        Bool.true_and]
      cases given : query.target with
      | none => rfl
      | some wanted => simpa using target wanted given
    · simpa [specificationFingerprint?, found] using differs

def observedFingerprint (position : JournalPosition) (fingerprint : String) : JournalRecord where
  event := .taskTrackerFactsObserved (.focusedTaskWorkSpecificationFacts
    { body := "body"
      fingerprint := ⟨fingerprint⟩
      operationId := ⟨"read"⟩
      target := .fixture "tracker"
      taskId := ⟨"task"⟩
      title := "title" })
  key := { value := "specification read" }
  position
  runId := ⟨"specification reads", by decide⟩

def specificationReads : List JournalRecord :=
  [observedFingerprint 1 "first", observedFingerprint 2 "second", observedFingerprint 3 "first"]

/-- The divergence is reported behind the return. -/
theorem specificationDivergedAfter_specificationReads :
    (specificationDivergenceFrom specificationReads).specificationDivergedAfter
      ⟨⟨"task"⟩, some (.fixture "tracker"), ⟨"first"⟩, 1, 3⟩ = true := by
  have increasing : Increasing JournalRecord.position specificationReads := by
    unfold Increasing
    decide
  refine (specificationDivergedAfter_iff_observed specificationReads increasing _).mpr
    ⟨observedFingerprint 2 "second", by simp [specificationReads], _, rfl, rfl, ?_, by decide,
      by decide, by decide⟩
  simp

end Dalph
