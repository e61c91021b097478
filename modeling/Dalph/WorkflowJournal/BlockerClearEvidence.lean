import Dalph.Foundation.PersistentSequence
import Dalph.TaskTracker.Facts

/-!
# Blocked and clear observations of a task

Each target keeps the states after its graph observations.  A state holds the tasks of the last
graph, blocked or clear, and the positions where tasks of earlier graphs were last seen blocked and
last seen clear.  Observing the same graph again moves only the position of the state.
-/

namespace Dalph

open PersistentSequence (Increasing)

/-- A projected graph.  Two of them are the same object when they have one reference. -/
structure ProjectedGraph where
  reference : Nat
  snapshot : TaskDagSnapshot

/-- Positions where a task was last seen blocked and last seen clear. -/
structure Boundaries where
  blocked : Option JournalPosition
  cleared : Option JournalPosition
deriving DecidableEq

/-- State of one target after an observation. -/
structure GraphState where
  snapshot : Option ProjectedGraph
  active : KeyedMap TaskId Bool
  settled : KeyedMap TaskId Boundaries
  observedAt : JournalPosition

/-- States of one target by the position of their observation. -/
structure TargetHistory where
  positions : PersistentSequence JournalPosition
  states : KeyedMap JournalPosition GraphState
  latest : GraphState

abbrev BlockerClearEvidence := KeyedMap String TargetHistory

def emptyBlockerClearEvidence : BlockerClearEvidence := ∅

def boundariesAt (state : GraphState) (taskId : TaskId) : Boundaries :=
  let settled := (state.settled.lookup taskId).getD ⟨none, none⟩
  match state.active.lookup taskId with
  | none => settled
  | some true => { settled with blocked := some state.observedAt }
  | some false => { settled with cleared := some state.observedAt }

def settlePriorBoundaries (prior : Option GraphState) : KeyedMap TaskId Boundaries :=
  match prior with
  | none => ∅
  | some prior =>
      prior.active.keys.foldl
        (fun settled taskId => KeyedMap.set settled taskId (boundariesAt prior taskId)) prior.settled

def hasUnfinishedPrerequisite (snapshot : TaskDagSnapshot) (taskId : TaskId) : Bool :=
  (snapshot.prerequisitesOf taskId).any fun prerequisite =>
    snapshot.lifecycleOf prerequisite ≠ some .completedSuccessfully

def blockerMembership (snapshot : Option ProjectedGraph) : KeyedMap TaskId Bool :=
  match snapshot with
  | none => ∅
  | some graph =>
      graph.snapshot.taskIds.foldl
        (fun active taskId =>
          KeyedMap.set active taskId (hasUnfinishedPrerequisite graph.snapshot taskId)) ∅

/-- State after one more observation. -/
def switchGraph (prior : Option GraphState) (snapshot : Option ProjectedGraph)
    (position : JournalPosition) : GraphState :=
  let switched :=
    { snapshot
      active := blockerMembership snapshot
      settled := settlePriorBoundaries prior
      observedAt := position }
  match prior with
  | none => switched
  | some state =>
      if state.snapshot.map (·.reference) = snapshot.map (·.reference) then
        { state with observedAt := position }
      else switched

def appendBlockerClearEvidence (evidence : BlockerClearEvidence) (target : TrackerTarget)
    (position : JournalPosition) (snapshot : Option ProjectedGraph) : BlockerClearEvidence :=
  let key := taskTrackerTargetKey target
  let prior := evidence.lookup key
  let state := switchGraph (prior.map (·.latest)) snapshot position
  evidence.set key
    { positions := (prior.elim .empty (·.positions)).append position
      states := KeyedMap.set (prior.elim ∅ (·.states)) position state
      latest := state }

def visibleState (history : TargetHistory) (cutoff : Int) : Option GraphState :=
  if (history.latest.observedAt : Int) ≤ cutoff then some history.latest
  else
    let low := history.positions.countThrough id cutoff
    if low = 0 then none
    else (history.positions.get (low - 1 : Nat)).bind history.states.lookup

/-- What is asked about one task of a target. -/
structure BlockerClearQuery where
  target : TrackerTarget
  taskId : TaskId
  afterPosition : Int
  throughPosition : Int
deriving DecidableEq

structure BlockerClearEpisode where
  blockerObservedAt : JournalPosition
  blockerClearedAt : JournalPosition
deriving DecidableEq

/-- The episode after a position, unless the task was blocked again. -/
def blockerClearEpisodeAt (evidence : BlockerClearEvidence) (query : BlockerClearQuery) :
    Option BlockerClearEpisode := do
  let history ← evidence.lookup (taskTrackerTargetKey query.target)
  let state ← visibleState history query.throughPosition
  let boundaries := boundariesAt state query.taskId
  let blocked ← boundaries.blocked
  let cleared ← boundaries.cleared
  if (blocked : Int) ≤ query.afterPosition ∨ cleared ≤ blocked then none
  else some { blockerObservedAt := blocked, blockerClearedAt := cleared }

structure GraphObservation where
  position : JournalPosition
  snapshot : Option ProjectedGraph

def TaskDagSnapshot.blocked? (snapshot : TaskDagSnapshot) (taskId : TaskId) : Option Bool :=
  if taskId ∈ snapshot.taskIds then some (hasUnfinishedPrerequisite snapshot taskId) else none

def GraphObservation.status (observation : GraphObservation) (taskId : TaskId) : Option Bool :=
  observation.snapshot.bind (·.snapshot.blocked? taskId)

def lastSeen (observations : List GraphObservation) (taskId : TaskId) (blocked : Bool) :
    Option JournalPosition :=
  ((observations.filter fun observation => observation.status taskId = some blocked).getLast?).map
    (·.position)

def stateAfter (observations : List GraphObservation) : Option GraphState :=
  observations.foldl (fun prior observation =>
    some (switchGraph prior observation.snapshot observation.position)) none

def Boundaries.seen (boundaries : Boundaries) (position : JournalPosition) :
    Option Bool → Boundaries
  | none => boundaries
  | some true => { boundaries with blocked := some position }
  | some false => { boundaries with cleared := some position }

theorem Boundaries.seen_seen (boundaries : Boundaries) (earlier later : JournalPosition)
    (status : Option Bool) :
    (boundaries.seen earlier status).seen later status = boundaries.seen later status := by
  obtain _ | _ | _ := status <;> rfl

theorem boundariesAt_eq (state : GraphState) (taskId : TaskId) :
    boundariesAt state taskId =
      ((state.settled.lookup taskId).getD ⟨none, none⟩).seen state.observedAt
        (state.active.lookup taskId) := by
  unfold boundariesAt
  generalize state.active.lookup taskId = status
  obtain _ | _ | _ := status <;> rfl

def priorBoundaries (prior : Option GraphState) (taskId : TaskId) : Boundaries :=
  prior.elim ⟨none, none⟩ (boundariesAt · taskId)

theorem getD_settlePriorBoundaries (prior : Option GraphState) (taskId : TaskId) :
    ((settlePriorBoundaries prior).lookup taskId).getD ⟨none, none⟩ =
      priorBoundaries prior taskId := by
  cases prior with
  | none => rfl
  | some prior =>
      rw [settlePriorBoundaries, KeyedMap.lookup_foldl_set_image]
      by_cases active : taskId ∈ prior.active.keys
      · rw [if_pos active]
        rfl
      · have absent : prior.active.lookup taskId = none := by
          rw [AList.lookup_eq_none, AList.mem_keys]
          exact active
        rw [if_neg active, priorBoundaries, Option.elim_some, boundariesAt_eq, absent]
        rfl

theorem lookup_blockerMembership (snapshot : Option ProjectedGraph) (taskId : TaskId) :
    (blockerMembership snapshot).lookup taskId =
      snapshot.bind (·.snapshot.blocked? taskId) := by
  cases snapshot with
  | none => rfl
  | some graph =>
      rw [blockerMembership, KeyedMap.lookup_foldl_set_image]
      rfl

/-- The state follows an observation of the snapshot at the position. -/
structure GraphState.Follows (state : GraphState) (observation : GraphObservation) : Prop where
  snapshot : state.snapshot = observation.snapshot
  active : state.active = blockerMembership observation.snapshot
  observedAt : state.observedAt = observation.position

def OneGraphEach (observations : List GraphObservation) : Prop :=
  ∀ first ∈ observations, ∀ second ∈ observations,
    first.snapshot.map (·.reference) = second.snapshot.map (·.reference) →
      first.snapshot = second.snapshot

theorem boundariesAt_derived (prior : Option GraphState) (observation : GraphObservation)
    (taskId : TaskId) :
    boundariesAt
        { snapshot := observation.snapshot
          active := blockerMembership observation.snapshot
          settled := settlePriorBoundaries prior
          observedAt := observation.position } taskId =
      (priorBoundaries prior taskId).seen observation.position (observation.status taskId) := by
  rw [boundariesAt_eq, getD_settlePriorBoundaries, lookup_blockerMembership]
  rfl

theorem switchGraph_spec {prior : Option GraphState} {earlier observation : GraphObservation}
    (follows : ∀ state ∈ prior, state.Follows earlier)
    (one : earlier.snapshot.map (·.reference) = observation.snapshot.map (·.reference) →
      earlier.snapshot = observation.snapshot) :
    (switchGraph prior observation.snapshot observation.position).Follows observation ∧
      ∀ taskId, boundariesAt (switchGraph prior observation.snapshot observation.position) taskId =
        (priorBoundaries prior taskId).seen observation.position (observation.status taskId) := by
  cases prior with
  | none => exact ⟨⟨rfl, rfl, rfl⟩, boundariesAt_derived none observation⟩
  | some state =>
      obtain ⟨snapshot, active, _⟩ := follows state rfl
      unfold switchGraph
      dsimp only
      split
      · next same =>
          rw [snapshot] at same
          have unchanged := one same
          refine ⟨⟨snapshot.trans unchanged, by rw [active, unchanged], rfl⟩, fun taskId => ?_⟩
          have status : state.active.lookup taskId = observation.status taskId := by
            rw [active, unchanged, lookup_blockerMembership]
            rfl
          rw [priorBoundaries, Option.elim_some, boundariesAt_eq, boundariesAt_eq, status,
            Boundaries.seen_seen]
      · exact ⟨⟨rfl, rfl, rfl⟩, boundariesAt_derived (some state) observation⟩

theorem switchGraph_observedAt (prior : Option GraphState) (snapshot : Option ProjectedGraph)
    (position : JournalPosition) : (switchGraph prior snapshot position).observedAt = position := by
  unfold switchGraph
  cases prior with
  | none => rfl
  | some state =>
      dsimp only
      split <;> rfl

section

variable (observations : List GraphObservation) (observation : GraphObservation)

theorem stateAfter_append :
    stateAfter (observations ++ [observation]) =
      some (switchGraph (stateAfter observations) observation.snapshot observation.position) := by
  rw [stateAfter, List.foldl_append]
  rfl

theorem lastSeen_append (taskId : TaskId) (blocked : Bool) :
    lastSeen (observations ++ [observation]) taskId blocked =
      if observation.status taskId = some blocked then some observation.position
      else lastSeen observations taskId blocked := by
  unfold lastSeen
  rw [List.filter_append]
  by_cases here : observation.status taskId = some blocked
  · simp [here]
  · simp [here]

theorem seen_lastSeen (taskId : TaskId) :
    Boundaries.seen ⟨lastSeen observations taskId true, lastSeen observations taskId false⟩
        observation.position (observation.status taskId) =
      ⟨lastSeen (observations ++ [observation]) taskId true,
        lastSeen (observations ++ [observation]) taskId false⟩ := by
  rw [lastSeen_append, lastSeen_append]
  generalize observation.status taskId = status
  obtain _ | _ | _ := status <;> rfl

end

theorem OneGraphEach.of_append {observations : List GraphObservation}
    {observation : GraphObservation} (one : OneGraphEach (observations ++ [observation])) :
    OneGraphEach observations :=
  fun first member second member' =>
    one first (List.mem_append_left _ member) second (List.mem_append_left _ member')

theorem stateAfter_spec {observations : List GraphObservation} (one : OneGraphEach observations) :
    (∀ state ∈ stateAfter observations, ∃ last ∈ observations, state.Follows last) ∧
      ∀ taskId, priorBoundaries (stateAfter observations) taskId =
        ⟨lastSeen observations taskId true, lastSeen observations taskId false⟩ := by
  induction observations using List.reverseRecOn with
  | nil => exact ⟨fun _ impossible => absurd impossible (by simp [stateAfter]), fun _ => rfl⟩
  | append_singleton observations observation induction =>
      obtain ⟨follows, sights⟩ := induction one.of_append
      rw [stateAfter_append]
      have step : (switchGraph (stateAfter observations) observation.snapshot
            observation.position).Follows observation ∧
          ∀ taskId, boundariesAt (switchGraph (stateAfter observations) observation.snapshot
            observation.position) taskId =
              (priorBoundaries (stateAfter observations) taskId).seen observation.position
                (observation.status taskId) := by
        cases prior : stateAfter observations with
        | none =>
            exact @switchGraph_spec none observation observation
              (fun _ impossible => absurd impossible (by simp)) (fun _ => rfl)
        | some state =>
            obtain ⟨last, member, follows⟩ := follows state prior
            refine switchGraph_spec (fun _ same => Option.some.inj same ▸ follows) ?_
            exact one last (List.mem_append_left _ member) observation (by simp)
      refine ⟨fun state same => ⟨observation, by simp, Option.some.inj same ▸ step.1⟩, fun taskId => ?_⟩
      rw [priorBoundaries, Option.elim_some, step.2, sights, seen_lastSeen]

namespace TargetHistory

/-- The history keeps the state after each observation. -/
structure Shows (history : TargetHistory) (observations : List GraphObservation) : Prop where
  positions : history.positions.toList = observations.map (·.position)
  states : ∀ earlier observation later, observations = earlier ++ observation :: later →
    history.states.lookup observation.position = stateAfter (earlier ++ [observation])
  latest : stateAfter observations = some history.latest

variable {history : TargetHistory} {observations : List GraphObservation}

theorem Shows.last (shows : history.Shows observations) :
    ∃ earlier last, observations = earlier ++ [last] ∧
      history.latest.observedAt = last.position := by
  obtain rfl | ⟨earlier, last, split⟩ := observations.eq_nil_or_concat'
  · exact absurd shows.latest (by simp [stateAfter])
  · refine ⟨earlier, last, split, ?_⟩
    have latest := shows.latest
    rw [split, stateAfter_append] at latest
    rw [← Option.some.inj latest, switchGraph_observedAt]

theorem Shows.countThrough_eq (shows : history.Shows observations)
    (increasing : Increasing GraphObservation.position observations) (cutoff : Int) :
    history.positions.countThrough id cutoff =
      (observations.filter fun observation => (observation.position : Int) ≤ cutoff).length := by
  have ordered : Increasing id history.positions.toList := by
    rw [shows.positions]
    exact List.pairwise_map.mpr increasing
  rw [PersistentSequence.countThrough_eq ordered, shows.positions, List.filter_map, List.length_map]
  rfl

theorem Shows.visibleState_eq (shows : history.Shows observations)
    (increasing : Increasing GraphObservation.position observations) (cutoff : Int) :
    visibleState history cutoff =
      stateAfter (observations.filter fun observation => (observation.position : Int) ≤ cutoff) := by
  unfold visibleState
  by_cases through : (history.latest.observedAt : Int) ≤ cutoff
  · obtain ⟨earlier, last, rfl, observedAt⟩ := shows.last
    rw [if_pos through]
    rw [observedAt] at through
    rw [increasing.filter_eq_self through, shows.latest]
  · rw [if_neg through, shows.countThrough_eq increasing]
    obtain ⟨later, prefixed⟩ := increasing.exists_filter_append cutoff
    generalize (observations.filter fun observation => decide ((observation.position : Int) ≤ cutoff))
      = visible at prefixed ⊢
    obtain rfl | ⟨earlier, last, rfl⟩ := visible.eq_nil_or_concat'
    · rfl
    · have split : observations = earlier ++ last :: later := by
        rw [prefixed, List.append_assoc]
        rfl
      have found : history.positions.get ((earlier.length : Nat) : Int) = some last.position := by
        rw [PersistentSequence.get_natCast, shows.positions, split]
        simp
      dsimp only
      rw [List.length_append, List.length_singleton, if_neg (by omega), Nat.add_sub_cancel, found]
      exact shows.states _ _ _ split

end TargetHistory

def HistoryShows (history : Option TargetHistory) (observations : List GraphObservation) : Prop :=
  history.elim (observations = []) (·.Shows observations)

variable {history : Option TargetHistory} {observations : List GraphObservation}

theorem HistoryShows.stateAfter_eq (shows : HistoryShows history observations) :
    stateAfter observations = history.map (·.latest) := by
  cases history with
  | none =>
      rw [show observations = [] from shows]
      rfl
  | some history => exact TargetHistory.Shows.latest shows

theorem HistoryShows.positions_eq (shows : HistoryShows history observations) :
    (history.elim .empty (·.positions)).toList = observations.map (·.position) := by
  cases history with
  | none =>
      rw [show observations = [] from shows]
      rfl
  | some history => exact TargetHistory.Shows.positions shows

theorem HistoryShows.states_eq (shows : HistoryShows history observations)
    {earlier later : List GraphObservation} {observation : GraphObservation}
    (split : observations = earlier ++ observation :: later) :
    (history.elim ∅ (·.states)).lookup observation.position =
      stateAfter (earlier ++ [observation]) := by
  cases history with
  | none =>
      rw [show observations = [] from shows] at split
      exact absurd split (by simp)
  | some history => exact TargetHistory.Shows.states shows earlier observation later split

theorem HistoryShows.append (shows : HistoryShows history observations)
    {observation : GraphObservation}
    (later : ∀ earlier ∈ observations, earlier.position < observation.position) :
    TargetHistory.Shows
      { positions := (history.elim .empty (·.positions)).append observation.position
        states := KeyedMap.set (history.elim ∅ (·.states)) observation.position
          (switchGraph (history.map (·.latest)) observation.snapshot observation.position)
        latest := switchGraph (history.map (·.latest)) observation.snapshot observation.position }
      (observations ++ [observation]) where
  positions := by
    rw [PersistentSequence.toList_append, shows.positions_eq, List.map_append]
    rfl
  states before middle after split := by
    rw [KeyedMap.lookup_set]
    obtain rfl | ⟨after, last, rfl⟩ := after.eq_nil_or_concat'
    · obtain ⟨rfl, same⟩ := List.append_inj' split rfl
      obtain rfl := List.singleton_inj.mp same
      rw [if_pos rfl, stateAfter_append, shows.stateAfter_eq]
    · have regrouped : observations ++ [observation] = (before ++ middle :: after) ++ [last] := by
        rw [split]
        simp
      obtain ⟨same, _⟩ := List.append_inj' regrouped rfl
      have earlier := later middle (by rw [same]; simp)
      rw [if_neg (Nat.ne_of_lt earlier)]
      exact shows.states_eq same
  latest := by rw [stateAfter_append, shows.stateAfter_eq]

def BlockerClearEvidence.Shows (evidence : BlockerClearEvidence)
    (observations : TrackerTarget → List GraphObservation) : Prop :=
  ∀ target, HistoryShows (evidence.lookup (taskTrackerTargetKey target)) (observations target)

theorem BlockerClearEvidence.Shows.append {evidence : BlockerClearEvidence}
    {observations observations' : TrackerTarget → List GraphObservation}
    (shows : evidence.Shows observations) {target : TrackerTarget} {observation : GraphObservation}
    (later : ∀ earlier ∈ observations target, earlier.position < observation.position)
    (own : observations' target = observations target ++ [observation])
    (others : ∀ other, other ≠ target → observations' other = observations other) :
    (appendBlockerClearEvidence evidence target observation.position observation.snapshot).Shows
      observations' := by
  intro other
  unfold appendBlockerClearEvidence
  dsimp only
  rw [KeyedMap.lookup_set]
  by_cases same : other = target
  · subst same
    rw [if_pos rfl, own]
    exact (shows other).append later
  · rw [if_neg fun keys => same (taskTrackerTargetKey_injective keys), others other same]
    exact shows other

theorem HistoryShows.boundaries (shows : HistoryShows history observations)
    (increasing : Increasing GraphObservation.position observations)
    (one : OneGraphEach observations) (cutoff : Int) (taskId : TaskId) :
    priorBoundaries (history.bind (visibleState · cutoff)) taskId =
      ⟨lastSeen (observations.filter fun observation => (observation.position : Int) ≤ cutoff)
          taskId true,
        lastSeen (observations.filter fun observation => (observation.position : Int) ≤ cutoff)
          taskId false⟩ := by
  have visible : history.bind (visibleState · cutoff) =
      stateAfter (observations.filter fun observation => (observation.position : Int) ≤ cutoff) := by
    cases history with
    | none =>
        rw [show observations = [] from shows]
        rfl
    | some history => exact TargetHistory.Shows.visibleState_eq shows increasing cutoff
  have kept : OneGraphEach (observations.filter fun observation =>
      decide ((observation.position : Int) ≤ cutoff)) :=
    fun first member second member' =>
      one first (List.mem_of_mem_filter member) second (List.mem_of_mem_filter member')
  rw [visible, (stateAfter_spec kept).2]

theorem blockerClearEpisodeAt_eq_some {evidence : BlockerClearEvidence} {query : BlockerClearQuery}
    {episode : BlockerClearEpisode} {boundaries : Boundaries}
    (visible : priorBoundaries ((evidence.lookup (taskTrackerTargetKey query.target)).bind
      (visibleState · query.throughPosition)) query.taskId = boundaries) :
    blockerClearEpisodeAt evidence query = some episode ↔
      boundaries.blocked = some episode.blockerObservedAt ∧
        boundaries.cleared = some episode.blockerClearedAt ∧
        query.afterPosition < episode.blockerObservedAt ∧
        episode.blockerObservedAt < episode.blockerClearedAt := by
  subst visible
  unfold blockerClearEpisodeAt
  cases evidence.lookup (taskTrackerTargetKey query.target) with
  | none => simp [priorBoundaries]
  | some history =>
      simp only [Option.bind_eq_bind, Option.bind_some]
      cases visibleState history query.throughPosition with
      | none => simp [priorBoundaries]
      | some state =>
          simp only [Option.bind_some, priorBoundaries, Option.elim_some]
          obtain ⟨blocked, cleared⟩ := boundariesAt state query.taskId
          cases blocked with
          | none => simp
          | some blocked =>
              cases cleared with
              | none => simp
              | some cleared =>
                  obtain ⟨observedAt, clearedAt⟩ := episode
                  simp only [Option.bind_some, Option.some.injEq]
                  split
                  · next denied =>
                      refine ⟨fun impossible => (by cases impossible), ?_⟩
                      rintro ⟨rfl, rfl, after, later⟩
                      obtain early | again := denied
                      · exact absurd after (not_lt_of_ge early)
                      · exact absurd later (not_lt_of_ge again)
                  · next allowed =>
                      rw [Option.some.injEq, BlockerClearEpisode.mk.injEq]
                      constructor
                      · rintro ⟨rfl, rfl⟩
                        obtain ⟨after, later⟩ := not_or.mp allowed
                        exact ⟨rfl, rfl, lt_of_not_ge after, lt_of_not_ge later⟩
                      · rintro ⟨rfl, rfl, _, _⟩
                        exact ⟨rfl, rfl⟩

end Dalph
