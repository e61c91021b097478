import Dalph.WorkflowJournal.BlockerClearEvidence
import Dalph.WorkflowJournal.RunLifecycle

/-!
# Graph evidence of a Run

Graph observations are indexed as they are recorded.  A complete observation is projected once, and
a reconfirmation shares the projection of the first complete observation with the operation it
names.  An episode read from the index is the one that the records themselves show.
-/

namespace Dalph

open PersistentSequence (Increasing)

/-- A complete observation with the position of its record and the graph projected there. -/
structure CompleteGraphEvidence where
  observation : CompleteTaskTrackerFactsObserved
  position : JournalPosition
  snapshot : Option ProjectedGraph

/-- Complete observations by operation, the graph at each position, and blocker evidence. -/
structure GraphEvidence where
  blockerClear : BlockerClearEvidence
  completeByOperation : KeyedMap OperationId CompleteGraphEvidence
  snapshots : KeyedMap JournalPosition (Option ProjectedGraph)

def emptyGraphEvidence : GraphEvidence :=
  { blockerClear := emptyBlockerClearEvidence
    completeByOperation := ∅
    snapshots := ∅ }

def completeGraphEvidence (observation : CompleteTaskTrackerFactsObserved)
    (position : JournalPosition) : CompleteGraphEvidence :=
  { observation
    position
    snapshot := (projectCompleteTaskGraph observation).map fun snapshot =>
      { reference := position, snapshot } }

/-- Complete observations known once a graph observation was made, and the graph it shows.  Other
observations have no graph. -/
def resolveGraphObservation (priorComplete : KeyedMap OperationId CompleteGraphEvidence)
    (observation : TaskTrackerFactsObservation) (position : JournalPosition) :
    Option (KeyedMap OperationId CompleteGraphEvidence × Option ProjectedGraph) :=
  match observation with
  | .completeTaskTrackerFacts facts =>
      let evidence := completeGraphEvidence facts position
      some (if facts.operationId ∈ priorComplete then priorComplete
        else priorComplete.set facts.operationId evidence, evidence.snapshot)
  | .unchangedTaskTrackerFactsReconfirmed facts =>
      some (priorComplete,
        match priorComplete.lookup facts.priorFullObservationOperationId with
        | none => none
        | some prior =>
            if prior.position < position &&
                reconfirmationMatchesPriorFullObservation facts prior.observation then
              prior.snapshot
            else none)
  | _ => none

def appendGraphEvidence (evidence : GraphEvidence) (record : JournalRecord) : GraphEvidence :=
  match record.trackerFacts? with
  | none => evidence
  | some observation =>
      match resolveGraphObservation evidence.completeByOperation observation record.position with
      | none => evidence
      | some (completeByOperation, snapshot) =>
          { blockerClear := appendBlockerClearEvidence evidence.blockerClear observation.target
              record.position snapshot
            completeByOperation
            snapshots := evidence.snapshots.set record.position snapshot }

def graphEvidenceFrom (records : List JournalRecord) : GraphEvidence :=
  records.foldl appendGraphEvidence emptyGraphEvidence

def graphSnapshotForObservation (evidence : GraphEvidence) (position : JournalPosition)
    (throughPosition : Int) : Option ProjectedGraph :=
  if (position : Int) > throughPosition then none
  else (evidence.snapshots.lookup position).getD none

def graphBlockerClearEpisodeAt (evidence : GraphEvidence) (query : BlockerClearQuery) :
    Option BlockerClearEpisode :=
  blockerClearEpisodeAt evidence.blockerClear query

def completeEvidence? (record : JournalRecord) : Option CompleteGraphEvidence :=
  record.completeFacts?.map (completeGraphEvidence · record.position)

def firstComplete? (records : List JournalRecord) (operationId : OperationId) :
    Option CompleteGraphEvidence :=
  (records.filterMap completeEvidence?).find? (·.observation.operationId = operationId)

/-- The complete observation that a graph observation stands for.  A reconfirmation stands for the
first earlier one of the operation it names, where the two match. -/
def standsFor? (records : List JournalRecord) (record : JournalRecord) :
    Option CompleteGraphEvidence :=
  match record.trackerFacts? with
  | some (.completeTaskTrackerFacts facts) => some (completeGraphEvidence facts record.position)
  | some (.unchangedTaskTrackerFactsReconfirmed facts) =>
      (firstComplete? (records.filter (·.position < record.position))
        facts.priorFullObservationOperationId).filter fun prior =>
          reconfirmationMatchesPriorFullObservation facts prior.observation
  | _ => none

def shownGraph? (records : List JournalRecord) (record : JournalRecord) : Option ProjectedGraph :=
  (standsFor? records record).bind (·.snapshot)

def observesGraphOf (target : TrackerTarget) (record : JournalRecord) : Bool :=
  record.trackerFacts?.any fun facts => facts.isGraphFacts && facts.target = target

def graphObservations (records : List JournalRecord) (target : TrackerTarget) :
    List GraphObservation :=
  (records.filter (observesGraphOf target)).map fun record =>
    { position := record.position, snapshot := shownGraph? records record }

/-- Position of the last visible observation of the target that shows the task blocked, or clear. -/
def lastObserved (records : List JournalRecord) (query : BlockerClearQuery) (blocked : Bool) :
    Option JournalPosition :=
  ((records.filter fun record =>
    decide ((record.position : Int) ≤ query.throughPosition) &&
      observesGraphOf query.target record &&
      (shownGraph? records record).bind (·.snapshot.blocked? query.taskId) = some blocked).getLast?).map
    (·.position)

variable {records : List JournalRecord} {record : JournalRecord}

theorem standsFor?_append_of_lt {earlier : JournalRecord}
    (before : earlier.position < record.position) :
    standsFor? (records ++ [record]) earlier = standsFor? records earlier := by
  have later : ¬ record.position < earlier.position := Nat.lt_asymm before
  unfold standsFor?
  rw [List.filter_append]
  simp [later]

theorem filter_append_last (last : ∀ earlier ∈ records, earlier.position < record.position) :
    (records ++ [record]).filter (·.position < record.position) = records := by
  have kept : records.filter (·.position < record.position) = records :=
    List.filter_eq_self.mpr fun earlier member => by simpa using last earlier member
  rw [List.filter_append, kept]
  simp

theorem completeEvidence?_position {evidence : CompleteGraphEvidence}
    (complete : completeEvidence? record = some evidence) :
    evidence.position = record.position ∧
      evidence.snapshot = (completeGraphEvidence evidence.observation evidence.position).snapshot := by
  obtain ⟨facts, _, rfl⟩ := Option.map_eq_some_iff.mp complete
  exact ⟨rfl, rfl⟩

theorem exists_of_standsFor? {evidence : CompleteGraphEvidence} (member : record ∈ records)
    (stands : standsFor? records record = some evidence) :
    ∃ complete ∈ records, completeEvidence? complete = some evidence := by
  unfold standsFor? at stands
  split at stands
  · next facts observed =>
      refine ⟨record, member, ?_⟩
      rw [completeEvidence?, JournalRecord.completeFacts?, observed, ← stands]
      rfl
  · next facts observed =>
      have found := (Option.filter_eq_some_iff.mp stands).1
      obtain ⟨complete, earlier, evidenceOf⟩ := List.mem_filterMap.mp (List.mem_of_find?_eq_some found)
      exact ⟨complete, List.mem_of_mem_filter earlier, evidenceOf⟩
  · contradiction

theorem exists_of_shownGraph? {graph : ProjectedGraph} (member : record ∈ records)
    (shown : shownGraph? records record = some graph) :
    ∃ complete ∈ records, complete.position = graph.reference ∧
      (completeEvidence? complete).bind (·.snapshot) = some graph := by
  obtain ⟨evidence, stands, projected⟩ := Option.bind_eq_some_iff.mp shown
  obtain ⟨complete, listed, evidenceOf⟩ := exists_of_standsFor? member stands
  refine ⟨complete, listed, ?_, by rw [evidenceOf]; exact projected⟩
  obtain ⟨position, snapshot⟩ := completeEvidence?_position evidenceOf
  rw [snapshot] at projected
  obtain ⟨_, _, rfl⟩ := Option.map_eq_some_iff.mp projected
  exact position.symm

theorem oneGraphEach_graphObservations (increasing : Increasing JournalRecord.position records)
    (target : TrackerTarget) : OneGraphEach (graphObservations records target) := by
  intro first member second member' same
  obtain ⟨record, listed, rfl⟩ := List.mem_map.mp member
  obtain ⟨record', listed', rfl⟩ := List.mem_map.mp member'
  dsimp only at same ⊢
  cases shown : shownGraph? records record with
  | none =>
      rw [shown] at same
      exact (Option.map_eq_none_iff.mp same.symm).symm
  | some graph =>
      rw [shown] at same
      obtain ⟨graph', shown', references⟩ := Option.map_eq_some_iff.mp same.symm
      obtain ⟨complete, known, position, projected⟩ :=
        exists_of_shownGraph? (List.mem_of_mem_filter listed) shown
      obtain ⟨complete', known', position', projected'⟩ :=
        exists_of_shownGraph? (List.mem_of_mem_filter listed') shown'
      have places : complete.position = complete'.position := by
        rw [position, position']
        exact references.symm
      rw [shown', ← projected, ← projected', increasing.eq_of_position known known' places]

theorem increasing_graphObservations (increasing : Increasing JournalRecord.position records)
    (target : TrackerTarget) :
    Increasing GraphObservation.position (graphObservations records target) :=
  List.pairwise_map.mpr (increasing.filter _)

theorem firstComplete?_append (operationId : OperationId) :
    firstComplete? (records ++ [record]) operationId =
      (firstComplete? records operationId).or
        ((completeEvidence? record).filter (·.observation.operationId = operationId)) := by
  unfold firstComplete?
  rw [List.filterMap_append, List.find?_append]
  congr 1
  cases evidence : completeEvidence? record with
  | none => simp [evidence]
  | some complete =>
      by_cases named : complete.observation.operationId = operationId <;>
        simp [evidence, Option.filter, named]

theorem graphObservations_append (increasing : Increasing JournalRecord.position (records ++ [record]))
    (target : TrackerTarget) :
    graphObservations (records ++ [record]) target =
      graphObservations records target ++
        if observesGraphOf target record then
          [{ position := record.position, snapshot := shownGraph? (records ++ [record]) record }]
        else [] := by
  have before := (List.pairwise_append.mp increasing).2.2
  unfold graphObservations
  rw [List.filter_append, List.map_append]
  congr 1
  · refine List.map_congr_left fun earlier member => ?_
    rw [shownGraph?, standsFor?_append_of_lt (before earlier (List.mem_of_mem_filter member) record
      (by simp)), shownGraph?]
  · split
    · next observes => simp [observes]
    · next observes => simp [observes]

theorem position_firstComplete?_lt (last : ∀ earlier ∈ records, earlier.position < record.position)
    {operationId : OperationId} {complete : CompleteGraphEvidence}
    (found : firstComplete? records operationId = some complete) :
    complete.position < record.position := by
  obtain ⟨earlier, member, evidenceOf⟩ := List.mem_filterMap.mp (List.mem_of_find?_eq_some found)
  rw [(completeEvidence?_position evidenceOf).1]
  exact last earlier member

/-- The index of a list of records keeps what the records show. -/
structure GraphEvidence.Shows (evidence : GraphEvidence) (records : List JournalRecord) : Prop where
  blockerClear : evidence.blockerClear.Shows (graphObservations records)
  completeByOperation : ∀ operationId,
    evidence.completeByOperation.lookup operationId = firstComplete? records operationId

variable {evidence : GraphEvidence}

theorem resolveGraphObservation_spec (shows : evidence.Shows records)
    (last : ∀ earlier ∈ records, earlier.position < record.position)
    {observation : TaskTrackerFactsObservation} (observed : record.trackerFacts? = some observation)
    (graph : observation.isGraphFacts = true) :
    ∃ completeByOperation,
      resolveGraphObservation evidence.completeByOperation observation record.position =
          some (completeByOperation, shownGraph? (records ++ [record]) record) ∧
        ∀ operationId, completeByOperation.lookup operationId =
          firstComplete? (records ++ [record]) operationId := by
  cases observation with
  | completeTaskTrackerFacts facts =>
      have complete : completeEvidence? record =
          some (completeGraphEvidence facts record.position) := by
        rw [completeEvidence?, JournalRecord.completeFacts?, observed]
        rfl
      have shown : shownGraph? (records ++ [record]) record =
          (completeGraphEvidence facts record.position).snapshot := by
        rw [shownGraph?, standsFor?, observed]
        rfl
      refine ⟨_, by rw [shown]; rfl, fun operationId => ?_⟩
      rw [firstComplete?_append, complete, ← shows.completeByOperation]
      split
      · next known =>
          by_cases named : facts.operationId = operationId
          · subst named
            obtain ⟨first, found⟩ := Option.isSome_iff_exists.mp (AList.lookup_isSome.mpr known)
            rw [found, Option.some_or]
          · simp [completeGraphEvidence, Option.filter, named]
      · next unknown =>
          rw [KeyedMap.lookup_set]
          by_cases named : facts.operationId = operationId
          · subst named
            rw [AList.lookup_eq_none.mpr unknown]
            simp [completeGraphEvidence, Option.filter]
          · simp [completeGraphEvidence, Option.filter, named, Ne.symm named]
  | unchangedTaskTrackerFactsReconfirmed facts =>
      have complete : completeEvidence? record = none := by
        rw [completeEvidence?, JournalRecord.completeFacts?, observed]
        rfl
      refine ⟨evidence.completeByOperation, ?_, fun operationId => ?_⟩
      · rw [shownGraph?, standsFor?, observed]
        dsimp only
        rw [filter_append_last last, resolveGraphObservation, shows.completeByOperation]
        cases found : firstComplete? records facts.priorFullObservationOperationId with
        | none => rfl
        | some prior =>
            have earlier : prior.position < record.position := position_firstComplete?_lt last found
            by_cases agrees : reconfirmationMatchesPriorFullObservation facts prior.observation = true
            · simp [earlier, agrees, Option.filter]
            · simp [agrees, Option.filter]
      · rw [firstComplete?_append, complete, shows.completeByOperation]
        simp
  | _ => exact absurd graph (by simp [TaskTrackerFactsObservation.isGraphFacts])

theorem GraphEvidence.Shows.append_of_other (shows : evidence.Shows records)
    (increasing : Increasing JournalRecord.position (records ++ [record]))
    (other : ∀ observation ∈ record.trackerFacts?, observation.isGraphFacts = false) :
    (appendGraphEvidence evidence record).Shows (records ++ [record]) := by
  have unobserved : ∀ target, observesGraphOf target record = false := by
    intro target
    unfold observesGraphOf
    cases observed : record.trackerFacts? with
    | none => rfl
    | some observation => simp [other observation observed]
  have incomplete : completeEvidence? record = none := by
    rw [completeEvidence?, JournalRecord.completeFacts?]
    cases observed : record.trackerFacts? with
    | none => rfl
    | some observation =>
        have unlike := other observation observed
        cases observation <;> first | rfl | exact Bool.noConfusion unlike
  have unchanged : appendGraphEvidence evidence record = evidence := by
    unfold appendGraphEvidence
    cases observed : record.trackerFacts? with
    | none => rfl
    | some observation =>
        have unlike := other observation observed
        cases observation <;> first | rfl | exact Bool.noConfusion unlike
  rw [unchanged]
  refine ⟨?_, fun operationId => ?_⟩
  · intro target
    rw [graphObservations_append increasing, unobserved, if_neg (by decide), List.append_nil]
    exact shows.blockerClear target
  · rw [firstComplete?_append, incomplete, shows.completeByOperation]
    simp

theorem GraphEvidence.Shows.append_of_graph (shows : evidence.Shows records)
    (increasing : Increasing JournalRecord.position (records ++ [record]))
    {observation : TaskTrackerFactsObservation} (observed : record.trackerFacts? = some observation)
    (graph : observation.isGraphFacts = true) :
    (appendGraphEvidence evidence record).Shows (records ++ [record]) := by
  have last : ∀ earlier ∈ records, earlier.position < record.position := fun earlier member =>
    (List.pairwise_append.mp increasing).2.2 earlier member record (by simp)
  obtain ⟨completeByOperation, resolved, complete⟩ :=
    resolveGraphObservation_spec shows last observed graph
  have observes : ∀ target, observesGraphOf target record = decide (observation.target = target) := by
    intro target
    simp [observesGraphOf, observed, graph]
  unfold appendGraphEvidence
  rw [observed]
  dsimp only
  rw [resolved]
  refine ⟨?_, complete⟩
  refine @BlockerClearEvidence.Shows.append _ _ _ shows.blockerClear observation.target
    { position := record.position, snapshot := shownGraph? (records ++ [record]) record } ?_ ?_ ?_
  · intro earlier member
    obtain ⟨listed, known, rfl⟩ := List.mem_map.mp member
    exact last listed (List.mem_of_mem_filter known)
  · rw [graphObservations_append increasing, observes]
    simp
  · intro other apart
    rw [graphObservations_append increasing, observes]
    simp [Ne.symm apart]

theorem shows_graphEvidenceFrom (increasing : Increasing JournalRecord.position records) :
    (graphEvidenceFrom records).Shows records := by
  induction records using List.reverseRecOn with
  | nil => exact ⟨fun _ => rfl, fun _ => rfl⟩
  | append_singleton records record induction =>
      have shows := induction (List.pairwise_append.mp increasing).1
      rw [graphEvidenceFrom, List.foldl_append]
      cases observed : record.trackerFacts? with
      | none =>
          refine shows.append_of_other increasing fun observation impossible => ?_
          rw [observed] at impossible
          contradiction
      | some observation =>
          cases graph : observation.isGraphFacts with
          | true => exact shows.append_of_graph increasing observed graph
          | false =>
              refine shows.append_of_other increasing fun other same => ?_
              rw [observed] at same
              rw [← Option.some.inj same]
              exact graph

theorem lastSeen_graphObservations (query : BlockerClearQuery) (blocked : Bool) :
    lastSeen ((graphObservations records query.target).filter fun observation =>
        (observation.position : Int) ≤ query.throughPosition) query.taskId blocked =
      lastObserved records query blocked := by
  unfold lastSeen lastObserved graphObservations
  rw [List.filter_map, List.filter_map, List.filter_filter, List.filter_filter, List.getLast?_map,
    Option.map_map]
  refine congrArg (fun shown : List JournalRecord => shown.getLast?.map (·.position))
    (List.filter_congr fun record _ => ?_)
  rw [Function.comp_apply, Function.comp_apply, Bool.and_assoc]
  exact Bool.and_comm _ _

/-- An episode is present exactly when the target's last visible observation that shows the task
blocked lies behind the start and its last visible observation that shows the task clear lies behind
that one; it has these two positions. -/
theorem graphBlockerClearEpisodeAt_eq_some_iff (records : List JournalRecord)
    (increasing : Increasing JournalRecord.position records) (query : BlockerClearQuery)
    (episode : BlockerClearEpisode) :
    graphBlockerClearEpisodeAt (graphEvidenceFrom records) query = some episode ↔
      lastObserved records query true = some episode.blockerObservedAt ∧
        lastObserved records query false = some episode.blockerClearedAt ∧
        query.afterPosition < episode.blockerObservedAt ∧
        episode.blockerObservedAt < episode.blockerClearedAt := by
  have shows := (shows_graphEvidenceFrom increasing).blockerClear query.target
  have sights := shows.boundaries (increasing_graphObservations increasing query.target)
    (oneGraphEach_graphObservations increasing query.target) query.throughPosition query.taskId
  rw [lastSeen_graphObservations, lastSeen_graphObservations] at sights
  exact blockerClearEpisodeAt_eq_some sights

def prerequisiteFamilies (operationId : OperationId) (lifecycle : TaskLifecycle) :
    CompleteTaskGraphFactFamilies :=
  let target := TrackerTarget.fixture "tracker"
  let subjectTaskIds : List TaskId := [⟨"dependant"⟩, ⟨"blocker"⟩]
  let evidence : CompleteFactEvidence :=
    { contentIdentity := ⟨"content"⟩
      coverage := { explicitlyCoveredTaskIds := [], target }
      freshnessOperationId := operationId }
  { identities := { evidence, taskIds := subjectTaskIds, descriptors := [], target }
    lifecycles :=
      { evidence
        subjectTaskIds
        rows := [(⟨"dependant"⟩, .opened), (⟨"blocker"⟩, lifecycle)] }
    prerequisites :=
      { evidence
        subjectTaskIds
        rows := [(⟨"dependant"⟩, [⟨"blocker"⟩]), (⟨"blocker"⟩, [])] }
    groupings :=
      { evidence, subjectTaskIds, rows := [(⟨"dependant"⟩, none), (⟨"blocker"⟩, none)] }
    membership := { evidence, memberTaskIds := subjectTaskIds, target } }

theorem prerequisiteFamilies_valid (operationId : OperationId) (lifecycle : TaskLifecycle) :
    invalidCompleteTaskGraphFacts (prerequisiteFamilies operationId lifecycle) operationId none
      (.fixture "tracker") = none := by
  simp [invalidCompleteTaskGraphFacts, completeFactFamilySubjectsDiffer, invalidCompleteCoverage,
    factFamiliesCoverTarget, coverageSubjectsDiffer, contentIdentitiesDiffer,
    CompleteTaskGraphFactFamilies.evidence, prerequisiteFamilies]

def prerequisiteRead (operationId : OperationId) (lifecycle : TaskLifecycle)
    (position : JournalPosition) : JournalRecord :=
  { event := .taskTrackerFactsObserved (.completeTaskTrackerFacts
      { factFamilies := prerequisiteFamilies operationId lifecycle
        operationId
        rootTaskId := none
        target := .fixture "tracker"
        valid := prerequisiteFamilies_valid operationId lifecycle })
    key := { value := s!"read {operationId.value}" }
    position
    runId := ⟨"cleared run", by decide⟩ }

def clearedRecords : List JournalRecord :=
  [prerequisiteRead ⟨"first read"⟩ .opened 1,
    prerequisiteRead ⟨"second read"⟩ .completedSuccessfully 2]

/-- The dependant was blocked at the first read and clear at the second. -/
theorem graphBlockerClearEpisodeAt_clearedRecords :
    graphBlockerClearEpisodeAt (graphEvidenceFrom clearedRecords)
        { target := .fixture "tracker"
          taskId := ⟨"dependant"⟩
          afterPosition := 0
          throughPosition := 2 } =
      some { blockerObservedAt := 1, blockerClearedAt := 2 } := by
  have increasing : Increasing JournalRecord.position clearedRecords := by
    simp [Increasing, clearedRecords, prerequisiteRead]
  refine (graphBlockerClearEpisodeAt_eq_some_iff clearedRecords increasing _ _).mpr ?_
  exact ⟨by decide +kernel, by decide +kernel, by decide, by decide⟩

end Dalph
