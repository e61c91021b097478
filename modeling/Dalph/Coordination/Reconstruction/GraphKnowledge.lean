import Dalph.Coordination.Reconstruction.HistoryIndexes
import Dalph.WorkflowJournal.GraphEvidence

/-!
# Reconstructed graph knowledge

A Run reconstructs the graph of a target from the latest observation of the target: a complete one
shows its own facts, a reconfirmation the complete one that it names.  In an accepted history a
backward scan of the records finds the same facts, and so does the graph evidence of the journal.
-/

namespace Dalph

abbrev GraphFactsObservation :=
  { observation : TaskTrackerFactsObservation // observation.isGraphFacts = true }

def TaskTrackerFactsObservation.graphFacts? (observation : TaskTrackerFactsObservation) :
    Option GraphFactsObservation :=
  if graph : observation.isGraphFacts = true then some ⟨observation, graph⟩ else none

/-- Observations in their order, with the graph facts among them by operation and by target. -/
structure GraphKnowledge where
  observations : List TaskTrackerFactsObservation
  completeByOperation : KeyedMap OperationId CompleteTaskTrackerFactsObserved
  latestByTarget : KeyedMap String GraphFactsObservation
  latest : Option GraphFactsObservation

def emptyGraphKnowledge : GraphKnowledge where
  observations := []
  completeByOperation := ∅
  latestByTarget := ∅
  latest := none

/-- The first complete observation of an operation is kept. -/
def addCompleteFacts (priorComplete : KeyedMap OperationId CompleteTaskTrackerFactsObserved)
    (observation : TaskTrackerFactsObservation) :
    KeyedMap OperationId CompleteTaskTrackerFactsObserved :=
  match observation.complete? with
  | some facts =>
      if facts.operationId ∈ priorComplete then priorComplete
      else priorComplete.set facts.operationId facts
  | none => priorComplete

def addGraphObservation (prior : GraphKnowledge) (observation : TaskTrackerFactsObservation) :
    GraphKnowledge where
  observations := prior.observations ++ [observation]
  completeByOperation := addCompleteFacts prior.completeByOperation observation
  latestByTarget :=
    match observation.graphFacts? with
    | some facts => prior.latestByTarget.set (taskTrackerTargetKey observation.target) facts
    | none => prior.latestByTarget
  latest := observation.graphFacts?.or prior.latest

def appendGraphKnowledge (prior : GraphKnowledge) (record : JournalRecord) : GraphKnowledge :=
  match record.trackerFacts? with
  | some observation => addGraphObservation prior observation
  | none => prior

def reduceGraphKnowledge (records : List JournalRecord) : GraphKnowledge :=
  (records.filterMap (·.trackerFacts?)).foldl addGraphObservation emptyGraphKnowledge

def fullFacts? (knowledge : GraphKnowledge) (observation : TaskTrackerFactsObservation) :
    Option CompleteTaskTrackerFactsObserved :=
  match observation with
  | .completeTaskTrackerFacts facts => some facts
  | .unchangedTaskTrackerFactsReconfirmed facts =>
      (knowledge.completeByOperation.lookup facts.priorFullObservationOperationId).filter
        (reconfirmationMatchesPriorFullObservation facts)
  | _ => none

def reconstructedTaskGraphFor (knowledge : GraphKnowledge) (target : TrackerTarget) :
    Option TaskDagSnapshot :=
  match knowledge.latestByTarget.lookup (taskTrackerTargetKey target) with
  | none => none
  | some latest => (fullFacts? knowledge latest.1).bind projectCompleteTaskGraph

def latestReconstructedTaskGraph (knowledge : GraphKnowledge) : Option TaskDagSnapshot :=
  knowledge.latest.bind fun latest => reconstructedTaskGraphFor knowledge latest.1.target

/-- What is said of a reconfirmation without an earlier full observation that it matches, with the
full observations known behind the record. -/
def invalidTaskTrackerReconfirmationReference (record : JournalRecord) (runId : RunId)
    (index : KeyedMap OperationId CompleteTaskTrackerFactsObserved) :
    KeyedMap OperationId CompleteTaskTrackerFactsObserved × List String :=
  match record.trackerFacts? with
  | some (.completeTaskTrackerFacts facts) =>
      if record.runId = runId ∧ facts.operationId ∉ index then
        (index.set facts.operationId facts, [])
      else (index, [])
  | some (.unchangedTaskTrackerFactsReconfirmed facts) =>
      (index,
        if (index.lookup facts.priorFullObservationOperationId).any
            (reconfirmationMatchesPriorFullObservation facts) then []
        else [s!"unchanged tracker facts require an earlier matching full observation {facts.priorFullObservationOperationId.value}"])
  | _ => (index, [])

def reconfirmationIssues (runId : RunId) :
    KeyedMap OperationId CompleteTaskTrackerFactsObserved → List JournalRecord → List String
  | _, [] => []
  | index, record :: rest =>
      let checked := invalidTaskTrackerReconfirmationReference record runId index
      checked.2 ++ reconfirmationIssues runId checked.1 rest

def latestGraphObservation? (records : List JournalRecord) (target : TrackerTarget) :
    Option JournalRecord :=
  findLast records (observesGraphOf target)

def fullObservationOf? (records : List JournalRecord) (operationId : OperationId) :
    Option CompleteTaskTrackerFactsObserved :=
  findLast (records.filterMap (·.completeFacts?)) fun facts => facts.operationId = operationId

/-- The full observation that a record is, or that it links to among the records before it. -/
def linkedFullObservation? (records : List JournalRecord) (record : JournalRecord) :
    Option CompleteTaskTrackerFactsObserved :=
  match record.trackerFacts? with
  | some (.completeTaskTrackerFacts facts) => some facts
  | some (.unchangedTaskTrackerFactsReconfirmed facts) =>
      fullObservationOf? (records.filter (·.position < record.position))
        facts.priorFullObservationOperationId
  | _ => none

def latestFullObservation? (records : List JournalRecord) (target : TrackerTarget) :
    Option CompleteTaskTrackerFactsObserved :=
  (latestGraphObservation? records target).bind (linkedFullObservation? records)

def journalGraphSnapshotForObservation (records : List JournalRecord) (position : JournalPosition) :
    Option ProjectedGraph :=
  graphSnapshotForObservation (graphEvidenceFrom records) position
    (((records.getLast?.map (·.position)).getD 0 : JournalPosition) : Int)

section

variable {runId : RunId} {records before after : List JournalRecord} {record : JournalRecord}
  {index : KeyedMap OperationId CompleteTaskTrackerFactsObserved}
  {observation : TaskTrackerFactsObservation} {target : TrackerTarget} {operationId : OperationId}

theorem foldl_appendGraphKnowledge (earlier later : List JournalRecord) :
    later.foldl appendGraphKnowledge (reduceGraphKnowledge earlier) =
      reduceGraphKnowledge (earlier ++ later) := by
  unfold reduceGraphKnowledge
  rw [List.filterMap_append, List.foldl_append]
  generalize (earlier.filterMap (·.trackerFacts?)).foldl addGraphObservation emptyGraphKnowledge =
    knowledge
  induction later generalizing knowledge with
  | nil => rfl
  | cons record later induction =>
      rw [List.foldl_cons, induction, appendGraphKnowledge]
      cases observed : record.trackerFacts? with
      | none => rw [List.filterMap_cons_none observed]
      | some observation => rw [List.filterMap_cons_some observed, List.foldl_cons]

theorem reduceGraphKnowledge_concat :
    reduceGraphKnowledge (records ++ [record]) =
      appendGraphKnowledge (reduceGraphKnowledge records) record :=
  (foldl_appendGraphKnowledge records [record]).symm

def KeepsFull (index : KeyedMap OperationId CompleteTaskTrackerFactsObserved)
    (records : List JournalRecord) : Prop :=
  ∀ operationId, index.lookup operationId =
    (firstComplete? records operationId).map (·.observation)

theorem KeepsFull.append_of_none (keeps : KeepsFull index records)
    (incomplete : record.completeFacts? = none) : KeepsFull index (records ++ [record]) := by
  intro operationId
  rw [firstComplete?_append, completeEvidence?, incomplete, keeps]
  simp

theorem KeepsFull.append (keeps : KeepsFull index records)
    (observed : record.trackerFacts? = some observation) :
    KeepsFull (addCompleteFacts index observation) (records ++ [record]) := by
  have complete : record.completeFacts? = observation.complete? := by
    rw [JournalRecord.completeFacts?, observed, Option.bind_some]
  unfold addCompleteFacts
  cases carried : observation.complete? with
  | none => exact keeps.append_of_none (complete.trans carried)
  | some facts =>
      intro operationId
      have evidence : completeEvidence? record =
          some (completeGraphEvidence facts record.position) := by
        rw [completeEvidence?, complete, carried, Option.map_some]
      rw [firstComplete?_append, evidence]
      dsimp only
      by_cases named : facts.operationId = operationId
      · subst named
        split
        · next known =>
            obtain ⟨first, found⟩ := Option.isSome_iff_exists.mp (AList.lookup_isSome.mpr known)
            have kept := keeps facts.operationId
            rw [found] at kept
            obtain ⟨complete, listed, same⟩ := Option.map_eq_some_iff.mp kept.symm
            rw [found, listed, Option.some_or, Option.map_some, same]
        · next unknown =>
            have absent := keeps facts.operationId
            rw [AList.lookup_eq_none.mpr unknown] at absent
            rw [KeyedMap.lookup_set, if_pos rfl, Option.map_eq_none_iff.mp absent.symm]
            simp [completeGraphEvidence, Option.filter]
      · have other : (if facts.operationId ∈ index then index
            else index.set facts.operationId facts).lookup operationId = index.lookup operationId := by
          split
          · rfl
          · rw [KeyedMap.lookup_set, if_neg (Ne.symm named)]
        rw [other, keeps]
        simp [completeGraphEvidence, Option.filter, named]

theorem keepsFull_reduceGraphKnowledge (records : List JournalRecord) :
    KeepsFull (reduceGraphKnowledge records).completeByOperation records := by
  induction records using List.reverseRecOn with
  | nil => exact fun operationId => rfl
  | append_singleton records record induction =>
      rw [reduceGraphKnowledge_concat, appendGraphKnowledge]
      cases observed : record.trackerFacts? with
      | none =>
          refine induction.append_of_none ?_
          rw [JournalRecord.completeFacts?, observed, Option.bind_none]
      | some observation => exact induction.append observed

theorem latestGraphObservation?_concat :
    latestGraphObservation? (records ++ [record]) target =
      if observesGraphOf target record then some record
      else latestGraphObservation? records target := by
  unfold latestGraphObservation? findLast
  rw [List.reverse_append, List.reverse_singleton, List.singleton_append, List.find?_cons]
  cases observesGraphOf target record <;> rfl

section

variable (records : List JournalRecord)

theorem lookup_latestByTarget (target : TrackerTarget) :
    ((reduceGraphKnowledge records).latestByTarget.lookup (taskTrackerTargetKey target)).map (·.1) =
      (latestGraphObservation? records target).bind (·.trackerFacts?) := by
  induction records using List.reverseRecOn with
  | nil => rfl
  | append_singleton records record induction =>
      rw [reduceGraphKnowledge_concat, appendGraphKnowledge, latestGraphObservation?_concat]
      cases observed : record.trackerFacts? with
      | none => simp [observesGraphOf, observed, induction]
      | some observation =>
          unfold addGraphObservation TaskTrackerFactsObservation.graphFacts?
          by_cases graph : observation.isGraphFacts = true
          · by_cases here : observation.target = target
            · simp [observesGraphOf, observed, graph, here, KeyedMap.lookup_set]
            · have apart : taskTrackerTargetKey target ≠ taskTrackerTargetKey observation.target :=
                fun same => here (taskTrackerTargetKey_injective same).symm
              simp [observesGraphOf, observed, graph, here, KeyedMap.lookup_set, apart, induction]
          · simp [observesGraphOf, observed, graph, induction]

end

theorem exists_full_of_reconfirmed {middle : List JournalRecord}
    {facts : UnchangedTaskTrackerFactsReconfirmed} (keeps : KeepsFull index before)
    (owned : ∀ other ∈ middle, other.runId = runId)
    (accepted : reconfirmationIssues runId index (middle ++ record :: after) = [])
    (observed : record.trackerFacts? = some (.unchangedTaskTrackerFactsReconfirmed facts)) :
    ∃ prior, firstComplete? (before ++ middle) facts.priorFullObservationOperationId = some prior ∧
      reconfirmationMatchesPriorFullObservation facts prior.observation = true := by
  induction middle generalizing before index with
  | nil =>
      have regular := (List.append_eq_nil_iff.mp accepted).1
      rw [invalidTaskTrackerReconfirmationReference, observed] at regular
      dsimp only at regular
      split at regular
      · next matching =>
          rw [keeps, Option.any_map] at matching
          obtain ⟨prior, found, agrees⟩ := (Option.any_eq_true _ _).mp matching
          exact ⟨prior, by rw [List.append_nil]; exact found, agrees⟩
      · cases regular
  | cons first middle induction =>
      have remaining := (List.append_eq_nil_iff.mp accepted).2
      have kept : KeepsFull (invalidTaskTrackerReconfirmationReference first runId index).1
          (before ++ [first]) := by
        unfold invalidTaskTrackerReconfirmationReference
        split
        · next facts complete =>
            have same := keeps.append complete
            rw [addCompleteFacts] at same
            dsimp only [TaskTrackerFactsObservation.complete?] at same
            by_cases known : facts.operationId ∈ index
            · rw [if_pos known] at same
              rw [if_neg (by simp [known])]
              exact same
            · rw [if_neg known] at same
              rw [if_pos ⟨owned first List.mem_cons_self, known⟩]
              exact same
        · next facts linked =>
            refine keeps.append_of_none ?_
            rw [JournalRecord.completeFacts?, linked]
            rfl
        · next incomplete _ =>
            refine keeps.append_of_none ?_
            rw [JournalRecord.completeFacts?]
            cases observes : first.trackerFacts? with
            | none => rfl
            | some observation =>
                cases observation with
                | completeTaskTrackerFacts facts => exact absurd observes (incomplete facts)
                | _ => rfl
      have found := induction kept (fun other member => owned other (List.mem_cons_of_mem _ member))
        remaining
      rw [List.append_assoc, List.singleton_append] at found
      exact found

theorem full_unique {first second : CompleteTaskTrackerFactsObserved}
    (canonical : Canonical runId records)
    (listed : first ∈ records.filterMap (·.completeFacts?))
    (member : second ∈ records.filterMap (·.completeFacts?))
    (same : first.operationId = second.operationId) : first = second := by
  have key : ∀ {record : JournalRecord} {facts : CompleteTaskTrackerFactsObserved},
      record.completeFacts? = some facts →
        record.event = .taskTrackerFactsObserved (.completeTaskTrackerFacts facts) := by
    intro record facts complete
    obtain ⟨observation, observed, carried⟩ := Option.bind_eq_some_iff.mp complete
    have event : record.event = .taskTrackerFactsObserved observation := by
      unfold JournalRecord.trackerFacts? at observed
      split at observed
      · next here => rw [here, Option.some.inj observed]
      · cases observed
    cases observation with
    | completeTaskTrackerFacts carriedFacts =>
        cases carried
        exact event
    | _ => cases carried
  obtain ⟨record, known, complete⟩ := List.mem_filterMap.mp listed
  obtain ⟨other, known', complete'⟩ := List.mem_filterMap.mp member
  have one : record = other := by
    refine canonical.eq_of_key known known' ?_
    rw [key complete, key complete']
    exact congrArg outcomeRecordKey same
  subst one
  exact Option.some.inj (complete.symm.trans complete')

theorem fullObservationOf?_eq (canonical : Canonical runId records) (operationId : OperationId) :
    fullObservationOf? records operationId =
      (firstComplete? records operationId).map (·.observation) := by
  unfold fullObservationOf? findLast
  cases first : firstComplete? records operationId with
  | none =>
      refine List.find?_eq_none.mpr fun facts listed named => ?_
      obtain ⟨record, member, complete⟩ := List.mem_filterMap.mp (List.mem_reverse.mp listed)
      have evidence : completeGraphEvidence facts record.position ∈
          records.filterMap completeEvidence? :=
        List.mem_filterMap.mpr ⟨record, member, by rw [completeEvidence?, complete]; rfl⟩
      exact List.find?_eq_none.mp first _ evidence named
  | some prior =>
      obtain ⟨record, member, evidence⟩ := List.mem_filterMap.mp (List.mem_of_find?_eq_some first)
      obtain ⟨facts, complete, rfl⟩ := Option.map_eq_some_iff.mp evidence
      have named : facts.operationId = operationId := by
        unfold firstComplete? at first
        have holds := List.find?_some first
        exact of_decide_eq_true holds
      have listed : facts ∈ records.filterMap (·.completeFacts?) :=
        List.mem_filterMap.mpr ⟨record, member, complete⟩
      cases last : (records.filterMap (·.completeFacts?)).reverse.find? fun facts =>
          decide (facts.operationId = operationId) with
      | none =>
          have unnamed := List.find?_eq_none.mp last facts (List.mem_reverse.mpr listed)
          exact absurd (decide_eq_true named) unnamed
      | some found =>
          have holds := List.find?_some last
          have same : found.operationId = operationId := of_decide_eq_true holds
          rw [full_unique canonical (List.mem_reverse.mp (List.mem_of_find?_eq_some last)) listed
            (same.trans named.symm)]
          rfl

theorem lookup_snapshots (increasing : InOrder records)
    (member : record ∈ records) (observes : observesGraphOf target record = true) :
    (graphEvidenceFrom records).snapshots.lookup record.position =
      some (shownGraph? records record) := by
  induction records using List.reverseRecOn with
  | nil => cases member
  | append_singleton records last induction =>
      have before := (List.pairwise_append.mp increasing).1
      have latest : ∀ earlier ∈ records, earlier.position < last.position := fun earlier member =>
        (List.pairwise_append.mp increasing).2.2 earlier member last (by simp)
      rw [graphEvidenceFrom, List.foldl_append, List.foldl_cons, List.foldl_nil,
        ← graphEvidenceFrom]
      obtain inside | here := Log.mem_concat.mp member
      · -- later evidence is kept at other positions, and shows nothing else at this one
        rw [shownGraph?, standsFor?_append_of_lt (latest record inside), ← shownGraph?,
          ← induction before inside]
        unfold appendGraphEvidence
        cases observed : last.trackerFacts? with
        | none => rfl
        | some observation =>
            dsimp only
            cases resolved : resolveGraphObservation (graphEvidenceFrom records).completeByOperation
                observation last.position with
            | none => rfl
            | some resolution =>
                dsimp only
                rw [KeyedMap.lookup_set, if_neg (Nat.ne_of_lt (latest record inside))]
      · obtain rfl := here
        obtain ⟨observation, observed, graph⟩ := (Option.any_eq_true _ _).mp observes
        obtain ⟨completeByOperation, resolved, _⟩ :=
          resolveGraphObservation_spec (shows_graphEvidenceFrom before) latest observed
            ((Bool.and_eq_true _ _).mp graph).1
        unfold appendGraphEvidence
        rw [observed]
        dsimp only
        rw [resolved]
        dsimp only
        rw [KeyedMap.lookup_set, if_pos rfl]

theorem latestGraphObservation?_spec (latest : latestGraphObservation? records target = some record) :
    record ∈ records ∧ observesGraphOf target record = true :=
  ⟨List.mem_reverse.mp (List.mem_of_find?_eq_some latest), List.find?_some latest⟩

/-- An accepted graph observation has a full observation behind it, and stands for it. -/
theorem standsFor?_eq_some (accepted : AcceptedHistory runId records)
    (reconfirmed : reconfirmationIssues runId ∅ records = []) (member : record ∈ records)
    (observes : observesGraphOf target record = true) :
    ∃ evidence, standsFor? records record = some evidence ∧
      linkedFullObservation? records record = some evidence.observation ∧
      evidence.snapshot.map (·.snapshot) = projectCompleteTaskGraph evidence.observation ∧
      (record.trackerFacts?).bind (fullFacts? (reduceGraphKnowledge records)) =
        some evidence.observation := by
  have canonical := accepted.canonical
  obtain ⟨before, after, rfl⟩ := List.append_of_mem member
  obtain ⟨observation, observed, graph⟩ := (Option.any_eq_true _ _).mp observes
  have projected : ∀ (facts : CompleteTaskTrackerFactsObserved) (position : JournalPosition),
      (completeGraphEvidence facts position).snapshot.map (·.snapshot) =
        projectCompleteTaskGraph facts := by
    intro facts position
    rw [completeGraphEvidence, Option.map_map]
    exact congrFun Option.map_id _
  cases observation with
  | completeTaskTrackerFacts facts =>
      refine ⟨completeGraphEvidence facts record.position, ?_, ?_, projected facts _, ?_⟩
      · rw [standsFor?, observed]
      · rw [linkedFullObservation?, observed]
        rfl
      · rw [observed]
        rfl
  | unchangedTaskTrackerFactsReconfirmed facts =>
      have owned : ∀ other ∈ before, other.runId = runId := fun other earlier =>
        canonical.owned other (List.mem_append_left _ earlier)
      obtain ⟨prior, found, agrees⟩ :=
        @exists_full_of_reconfirmed runId [] after record ∅ before facts (fun _ => rfl) owned
          reconfirmed observed
      rw [List.nil_append] at found
      refine ⟨prior, ?_, ?_, ?_, ?_⟩
      · rw [standsFor?, observed]
        dsimp only
        rw [canonical.filter_before, found, Option.filter_some, if_pos agrees]
      · rw [linkedFullObservation?, observed]
        dsimp only
        rw [canonical.filter_before, fullObservationOf?_eq canonical.left, found]
        rfl
      · obtain ⟨complete, _, evidence⟩ :=
          List.mem_filterMap.mp (List.mem_of_find?_eq_some found)
        obtain ⟨_, snapshot⟩ := completeEvidence?_position evidence
        rw [snapshot]
        exact projected prior.observation prior.position
      · have whole : firstComplete? (before ++ record :: after)
            facts.priorFullObservationOperationId = some prior := by
          unfold firstComplete? at found ⊢
          rw [List.filterMap_append, List.find?_append, found]
          rfl
        rw [observed, Option.bind_some, fullFacts?,
          keepsFull_reduceGraphKnowledge (before ++ record :: after), whole, Option.map_some,
          Option.filter_some, if_pos agrees]
  | _ => exact absurd graph (by simp [TaskTrackerFactsObservation.isGraphFacts])

theorem reconstructedTaskGraphFor_eq (accepted : AcceptedHistory runId records)
    (reconfirmed : reconfirmationIssues runId ∅ records = []) (target : TrackerTarget) :
    reconstructedTaskGraphFor (reduceGraphKnowledge records) target =
      (latestFullObservation? records target).bind projectCompleteTaskGraph := by
  have kept := lookup_latestByTarget records target
  unfold reconstructedTaskGraphFor latestFullObservation?
  cases latest : latestGraphObservation? records target with
  | none =>
      rw [latest, Option.bind_none, Option.map_eq_none_iff] at kept
      rw [kept]
      rfl
  | some record =>
      obtain ⟨member, observes⟩ := latestGraphObservation?_spec latest
      obtain ⟨evidence, _, linked, _, full⟩ :=
        standsFor?_eq_some accepted reconfirmed member observes
      obtain ⟨observation, observed, _⟩ := (Option.any_eq_true _ _).mp observes
      rw [latest, Option.bind_some, observed] at kept
      rw [observed, Option.bind_some] at full
      obtain ⟨facts, found, rfl⟩ := Option.map_eq_some_iff.mp kept
      rw [found, Option.bind_some, linked]
      dsimp only
      rw [full]

theorem journalGraphSnapshotForObservation_eq
    (increasing : InOrder records) (member : record ∈ records)
    (observes : observesGraphOf target record = true) :
    journalGraphSnapshotForObservation records record.position = shownGraph? records record := by
  unfold journalGraphSnapshotForObservation graphSnapshotForObservation
  rw [lookup_snapshots increasing member observes, if_neg, Option.getD_some]
  obtain rfl | ⟨earlier, last, rfl⟩ := List.eq_nil_or_concat records
  · cases member
  rw [List.concat_eq_append] at increasing member ⊢
  rw [List.getLast?_concat, Option.map_some, Option.getD_some, gt_iff_lt, not_lt, Int.ofNat_le]
  obtain inside | here := Log.mem_concat.mp member
  · exact Nat.le_of_lt ((List.pairwise_append.mp increasing).2.2 record inside last (by simp))
  · rw [here]

/-- In an accepted history, knowledge kept record by record is the one reduced from all records, and
the graph of a target is the projection of the full observation that a backward scan finds, which is
also the graph that the journal keeps for the latest observation of the target. -/
theorem reconstructedTaskGraph_latest (accepted : AcceptedHistory runId records)
    (reconfirmed : reconfirmationIssues runId ∅ records = []) (target : TrackerTarget) :
    (∀ earlier later, records = earlier ++ later →
      later.foldl appendGraphKnowledge (reduceGraphKnowledge earlier) =
        reduceGraphKnowledge records) ∧
    reconstructedTaskGraphFor (reduceGraphKnowledge records) target =
      (latestFullObservation? records target).bind projectCompleteTaskGraph ∧
    ∀ record, latestGraphObservation? records target = some record →
      (linkedFullObservation? records record).isSome ∧
      (journalGraphSnapshotForObservation records record.position).map (·.snapshot) =
        reconstructedTaskGraphFor (reduceGraphKnowledge records) target := by
  refine ⟨?_, reconstructedTaskGraphFor_eq accepted reconfirmed target, ?_⟩
  · rintro earlier later rfl
    exact foldl_appendGraphKnowledge earlier later
  · intro record latest
    obtain ⟨member, observes⟩ := latestGraphObservation?_spec latest
    obtain ⟨evidence, stands, linked, projected, _⟩ :=
      standsFor?_eq_some accepted reconfirmed member observes
    refine ⟨by rw [linked]; rfl, ?_⟩
    rw [reconstructedTaskGraphFor_eq accepted reconfirmed, latestFullObservation?, latest,
      Option.bind_some, linked, Option.bind_some, ← projected,
      journalGraphSnapshotForObservation_eq accepted.canonical.chronological.increasing member
        observes, shownGraph?, stands, Option.bind_some]

end

namespace ReconfirmedGraph

open EstablishedRun

def secondRead : ReadTrackerGraphOperation :=
  { graphRead with operationId := ⟨"second-graph"⟩ }

def secondEvidence : CompleteFactEvidence :=
  { evidence with freshnessOperationId := secondRead.operationId }

def reconfirmation : UnchangedTaskTrackerFactsReconfirmed where
  factFamilies :=
    { identities := secondEvidence
      identitiesTarget := target
      lifecycles := secondEvidence
      lifecycleTaskIds := [task]
      prerequisites := secondEvidence
      prerequisiteTaskIds := [task]
      groupings := secondEvidence
      groupingTaskIds := [task]
      membership := secondEvidence
      membershipTarget := target }
  operationId := secondRead.operationId
  priorFullObservationOperationId := graphRead.operationId
  rootTaskId := some task
  target := target
  valid := by decide

def records : List JournalRecord :=
  recordsFrom (events.take 5 ++
    [.taskTrackerReadIntentRecorded (.readTrackerGraph secondRead),
      .taskTrackerFactsObserved (.unchangedTaskTrackerFactsReconfirmed reconfirmation)])

end ReconfirmedGraph

/-- The latest observation reconfirms the first one, and shows its graph. -/
theorem reconstructedTaskGraph_reconfirmed :
    reconstructedTaskGraphFor (reduceGraphKnowledge ReconfirmedGraph.records) EstablishedRun.target =
      projectCompleteTaskGraph EstablishedRun.facts := by
  have found := (reconstructedTaskGraph_latest
    (show AcceptedHistory EstablishedRun.runId ReconfirmedGraph.records from
      .inr (by decide +kernel)) (by decide +kernel) EstablishedRun.target).2.1
  rw [found]
  have scanned : latestFullObservation? ReconfirmedGraph.records EstablishedRun.target =
      some EstablishedRun.facts := by
    decide +kernel
  rw [scanned, Option.bind_some]

end Dalph
