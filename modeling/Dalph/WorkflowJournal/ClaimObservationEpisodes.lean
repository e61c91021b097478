import Dalph.Foundation.FinalRun
import Dalph.Foundation.Log
import Dalph.Foundation.SequenceIndex
import Dalph.WorkflowJournal.RunLifecycle

/-!
# Episodes of claim observations

Focused reads of a task observe its claim.  Equal observations that follow each other form an
episode; the index keeps, for every observation, where the episode that it belonged to began.
-/

namespace Dalph

open PersistentSequence (Increasing)

/-- Claim observations of each task, and the start of the episode that each of them continued. -/
structure ClaimObservationEpisodes where
  byTask : SequenceIndex TaskId JournalRecord
  startedAt : KeyedMap JournalPosition JournalPosition

structure ClaimObservationEpisode where
  record : JournalRecord
  episodeStartedAt : JournalPosition
deriving DecidableEq

def emptyClaimObservationEpisodes : ClaimObservationEpisodes :=
  ⟨∅, ∅⟩

/-- The task of a focused claim observation and the claim; there is none where the reads failed. -/
def focusedObservation (record : JournalRecord) : Option (TaskId × Option TaskClaimObservation) :=
  match record.trackerFacts? with
  | some (.focusedTaskClaimFacts facts) => some (facts.observation.taskId, some facts.observation)
  | some (.focusedTaskClaimFactsUnreadable _ _ taskId) => some (taskId, none)
  | _ => none

def sameObservation (left right : JournalRecord) : Bool :=
  match focusedObservation left, focusedObservation right with
  | some (_, some (.unclaimedTask _)), some (_, some (.unclaimedTask _)) => true
  | some (_, some (.activeTaskClaim before)), some (_, some (.activeTaskClaim after)) =>
      isExactTaskClaim before after
  | _, _ => false

/-- Where the episode of a new observation began. -/
def claimEpisodeStart (index : ClaimObservationEpisodes) (latest : Option JournalRecord)
    (record : JournalRecord) : JournalPosition :=
  match latest with
  | none => record.position
  | some latest =>
      if sameObservation latest record then
        (index.startedAt.lookup latest.position).getD record.position
      else record.position

def appendClaimObservationEpisode (index : ClaimObservationEpisodes) (record : JournalRecord) :
    ClaimObservationEpisodes :=
  match focusedObservation record with
  | none => index
  | some (taskId, _) =>
      let startedAt := claimEpisodeStart index ((index.byTask.bucket taskId).get (-1)) record
      { byTask := index.byTask.push taskId record
        startedAt := index.startedAt.set record.position startedAt }

def claimObservationEpisodesFrom (records : List JournalRecord) : ClaimObservationEpisodes :=
  records.foldl appendClaimObservationEpisode emptyClaimObservationEpisodes

def claimObservationEpisodeAt (index : ClaimObservationEpisodes) (taskId : TaskId)
    (throughPosition : Int) : Option ClaimObservationEpisode := do
  let record ← (index.byTask.bucket taskId).lastThrough (·.position) throughPosition
  let episodeStartedAt ← index.startedAt.lookup record.position
  some { record, episodeStartedAt }

def claimObservations (taskId : TaskId) (records : List JournalRecord) : List JournalRecord :=
  records.filter fun record => (focusedObservation record).any (·.1 = taskId)

def claimObserved? (record : JournalRecord) : Option TaskClaimObservation :=
  (focusedObservation record).bind Prod.snd

def ObservesSameClaim (left right : JournalRecord) : Prop :=
  ∃ claim, claimObserved? left = some claim ∧ claimObserved? right = some claim

instance : IsTrans JournalRecord ObservesSameClaim where
  trans _ _ _ := by
    rintro ⟨claim, left, middle⟩ ⟨other, again, right⟩
    obtain rfl := Option.some.inj (middle.symm.trans again)
    exact ⟨claim, left, right⟩

instance : Std.Symm ObservesSameClaim where
  symm _ _ := fun ⟨claim, left, right⟩ => ⟨claim, right, left⟩

section

variable {records observations : List JournalRecord} {record earlier : JournalRecord}
  {taskId : TaskId} {index : ClaimObservationEpisodes}

theorem taskId_of_focusedObservation {claim : TaskClaimObservation}
    (observed : focusedObservation record = some (taskId, some claim)) : claim.taskId = taskId := by
  unfold focusedObservation at observed
  split at observed
  · simp only [Option.some.injEq, Prod.mk.injEq] at observed
    obtain ⟨rfl, rfl⟩ := observed
    rfl
  · simp at observed
  · cases observed

theorem sameObservation_iff {left right : Option TaskClaimObservation}
    (first : focusedObservation earlier = some (taskId, left))
    (second : focusedObservation record = some (taskId, right)) :
    sameObservation earlier record = true ↔ ObservesSameClaim earlier record := by
  have shown : ObservesSameClaim earlier record ↔ ∃ claim, left = some claim ∧ right = some claim := by
    simp [ObservesSameClaim, claimObserved?, first, second]
  rw [shown, sameObservation, first, second]
  obtain _ | before := left
  · simp
  obtain _ | after := right
  · cases before <;> simp
  have left := taskId_of_focusedObservation first
  have right := taskId_of_focusedObservation second
  cases before with
  | unclaimedTask task =>
      cases after with
      | unclaimedTask other =>
          obtain rfl : task = taskId := left
          obtain rfl : other = task := right
          simp
      | activeTaskClaim claim => simp
  | activeTaskClaim claim =>
      cases after with
      | unclaimedTask other => simp
      | activeTaskClaim other => simp [isExactTaskClaim, eq_comm]

def EpisodeStarts (observations : List JournalRecord) (start : JournalPosition) : Prop :=
  ∃ before first run, observations = before ++ first :: run ∧
    FinalRun ObservesSameClaim before (first :: run) ∧ first.position = start

structure ClaimObservationEpisodes.Shows (index : ClaimObservationEpisodes)
    (records : List JournalRecord) : Prop where
  byTask : ∀ taskId, (index.byTask.bucket taskId).toList = claimObservations taskId records
  startedAt : ∀ taskId earlier record later,
    claimObservations taskId records = earlier ++ record :: later →
      ∃ start, index.startedAt.lookup record.position = some start ∧
        EpisodeStarts (earlier ++ [record]) start

theorem claimObservations_append (taskId : TaskId) (records : List JournalRecord)
    (record : JournalRecord) :
    claimObservations taskId (records ++ [record]) = claimObservations taskId records ++
      if (focusedObservation record).any (·.1 = taskId) then [record] else [] := by
  simp only [claimObservations, List.filter_append, List.filter_cons, List.filter_nil]

theorem claimEpisodeStart_spec (shows : index.Shows records) {claim : Option TaskClaimObservation}
    (observed : focusedObservation record = some (taskId, claim)) :
    EpisodeStarts (claimObservations taskId records ++ [record])
      (claimEpisodeStart index ((index.byTask.bucket taskId).get (-1)) record) := by
  rw [PersistentSequence.get_neg_one, shows.byTask]
  obtain none | ⟨earlier, latest, listed⟩ := List.eq_nil_or_concat (claimObservations taskId records)
  · rw [none]
    exact ⟨[], record, [], rfl, .single record, rfl⟩
  · rw [List.concat_eq_append] at listed
    obtain ⟨start, kept, before, first, run, split, final, begins⟩ :=
      shows.startedAt taskId earlier latest [] listed
    have ends := final.ends split
    have member : latest ∈ claimObservations taskId records := by simp [listed]
    obtain ⟨⟨task, prior⟩, found, same⟩ := Option.any_eq_true _ _ |>.mp (List.mem_filter.mp member).2
    obtain rfl : task = taskId := by simpa using same
    rw [listed, List.getLast?_concat]
    unfold claimEpisodeStart
    dsimp only
    by_cases alike : sameObservation latest record
    · have equal := (sameObservation_iff found observed).mp alike
      rw [if_pos alike, kept, Option.getD_some, split, List.append_assoc]
      exact ⟨before, first, run ++ [record], rfl, final.join ends equal, begins⟩
    · have apart := fun equal => alike ((sameObservation_iff found observed).mpr equal)
      rw [if_neg alike, split]
      exact ⟨before ++ first :: run, record, [], rfl, final.start ends apart, rfl⟩

theorem ClaimObservationEpisodes.Shows.append (shows : index.Shows records)
    (last : ∀ earlier ∈ records, earlier.position < record.position) :
    (appendClaimObservationEpisode index record).Shows (records ++ [record]) := by
  unfold appendClaimObservationEpisode
  cases observed : focusedObservation record with
  | none =>
      have same : ∀ taskId,
          claimObservations taskId (records ++ [record]) = claimObservations taskId records := by
        intro taskId
        rw [claimObservations_append, observed]
        simp
      exact ⟨fun taskId => (shows.byTask taskId).trans (same taskId).symm,
        fun taskId earlier other later split =>
          shows.startedAt taskId earlier other later ((same taskId).symm.trans split)⟩
  | some read =>
      obtain ⟨task, claim⟩ := read
      have appended : ∀ taskId, claimObservations taskId (records ++ [record]) =
          claimObservations taskId records ++ if task = taskId then [record] else [] := by
        intro taskId
        rw [claimObservations_append, observed]
        simp
      refine ⟨fun taskId => ?_, fun taskId earlier other later split => ?_⟩
      · dsimp only
        rw [SequenceIndex.bucket_push, appended]
        by_cases own : taskId = task
        · subst own
          rw [if_pos rfl, if_pos rfl, PersistentSequence.toList_append, shows.byTask]
        · rw [if_neg own, if_neg (Ne.symm own), List.append_nil, shows.byTask]
      · dsimp only
        rw [KeyedMap.lookup_set]
        -- an observation that was kept before stands before the record
        have kept : ∀ rest, claimObservations taskId records = earlier ++ other :: rest →
            other.position ≠ record.position ∧ ∃ start,
              index.startedAt.lookup other.position = some start ∧
                EpisodeStarts (earlier ++ [other]) start := by
          intro rest inner
          have member : other ∈ claimObservations taskId records := by simp [inner]
          exact ⟨Nat.ne_of_lt (last other (List.mem_filter.mp member).1),
            shows.startedAt taskId earlier other rest inner⟩
        rw [appended] at split
        by_cases own : task = taskId
        · subst own
          rw [if_pos rfl] at split
          obtain ⟨rfl, rfl⟩ | ⟨rest, inner⟩ := Log.split_concat split
          · exact ⟨_, if_pos rfl, claimEpisodeStart_spec shows observed⟩
          · obtain ⟨apart, found⟩ := kept rest inner
            rw [if_neg apart]
            exact found
        · rw [if_neg own, List.append_nil] at split
          obtain ⟨apart, found⟩ := kept later split
          rw [if_neg apart]
          exact found

theorem shows_claimObservationEpisodesFrom
    (increasing : Increasing JournalRecord.position records) :
    (claimObservationEpisodesFrom records).Shows records := by
  induction records using List.reverseRecOn with
  | nil =>
      exact ⟨fun _ => rfl, fun _ _ _ _ impossible => absurd impossible (by simp [claimObservations])⟩
  | append_singleton records record induction =>
      obtain ⟨earlier, _, last⟩ := List.pairwise_append.mp increasing
      rw [claimObservationEpisodesFrom, List.foldl_append]
      exact (induction earlier).append fun before member => last before member record (by simp)

end

/-- At every cutoff a task has its last visible observation, with the beginning of the longest run of
equal observations that ends there. -/
theorem claimObservationEpisodeAt_eq_some_iff (records : List JournalRecord)
    (increasing : Increasing JournalRecord.position records) (taskId : TaskId)
    (throughPosition : Int) (episode : ClaimObservationEpisode) :
    let observed := claimObservations taskId records
    let visible := observed.filter fun record => (record.position : Int) ≤ throughPosition
    claimObservationEpisodeAt (claimObservationEpisodesFrom records) taskId throughPosition =
        some episode ↔
      visible.getLast? = some episode.record ∧
        ∃ first run, first :: run <:+ visible ∧ first.position = episode.episodeStartedAt ∧
          (first :: run).Pairwise ObservesSameClaim ∧
          ∀ other, other <:+ visible → other.Pairwise ObservesSameClaim →
            other.length ≤ (first :: run).length := by
  intro observed visible
  have shows := shows_claimObservationEpisodesFrom increasing
  have ordered : Increasing JournalRecord.position observed := increasing.sublist List.filter_sublist
  have bucket := shows.byTask taskId
  have latest : ((claimObservationEpisodesFrom records).byTask.bucket taskId).lastThrough
      JournalRecord.position throughPosition = visible.getLast? := by
    rw [PersistentSequence.lastThrough_eq (by rwa [bucket]), bucket]
  obtain ⟨later, split⟩ : ∃ later, observed = visible ++ later :=
    ordered.exists_filter_append throughPosition
  unfold claimObservationEpisodeAt
  rw [latest]
  obtain none | ⟨earlier, record, listed⟩ := List.eq_nil_or_concat visible
  · simp [none]
  · rw [List.concat_eq_append] at listed
    have whole : observed = earlier ++ record :: later := by
      rw [split, listed, List.append_assoc, List.singleton_append]
    obtain ⟨start, kept, before, head, rest, shape, final, begins⟩ :=
      shows.startedAt taskId earlier record later whole
    rw [listed, List.getLast?_concat, Option.bind_eq_bind, Option.bind_some, kept]
    constructor
    · rintro ⟨⟩
      refine ⟨rfl, head, rest, ⟨before, shape.symm⟩, begins, final.uniform, ?_⟩
      intro other suffix uniform
      rw [shape] at suffix
      exact (final.longest suffix uniform).length_le
    · rintro ⟨same, first, run, suffix, starts, uniform, longest⟩
      rw [shape] at suffix longest
      have inside := final.longest suffix uniform
      have equal := inside.eq_of_length_le
        (longest (head :: rest) (List.suffix_append before _) final.uniform)
      obtain rfl := (List.cons.inj equal).1
      obtain ⟨shown, at_⟩ := episode
      cases same
      exact congrArg some (congrArg _ (begins.symm.trans starts))

def claimRead (position : JournalPosition) (readable : Bool) : JournalRecord where
  event := .taskTrackerFactsObserved
    (if readable then
      .focusedTaskClaimFacts ⟨.unclaimedTask ⟨"task"⟩, ⟨"read"⟩, .fixture "tracker"⟩
    else .focusedTaskClaimFactsUnreadable ⟨"read"⟩ (.fixture "tracker") ⟨"task"⟩)
  key := { value := "claim read" }
  position
  runId := ⟨"claim reads", by decide⟩

def claimReads : List JournalRecord :=
  [claimRead 1 true, claimRead 2 false, claimRead 3 true, claimRead 4 true, claimRead 5 false]

/-- The episode behind the failed read is the one that a cutoff within it shows. -/
theorem claimObservationEpisodeAt_claimReads :
    ∃ first run, first :: run <:+ claimReads.take 4 ∧ first.position = 3 ∧
      (first :: run).Pairwise ObservesSameClaim := by
  have increasing : Increasing JournalRecord.position claimReads := by
    unfold Increasing
    decide
  have found := (claimObservationEpisodeAt_eq_some_iff claimReads increasing ⟨"task"⟩ 4
    ⟨claimRead 4 true, 3⟩).mp (by decide +kernel)
  have visible : (claimObservations ⟨"task"⟩ claimReads).filter
      (fun record => (record.position : Int) ≤ 4) = claimReads.take 4 := by
    decide +kernel
  rw [visible] at found
  obtain ⟨_, first, run, suffix, starts, uniform, _⟩ := found
  exact ⟨first, run, suffix, starts, uniform⟩

end Dalph
