import Dalph.Foundation.SequenceIndex
import Dalph.Foundation.TextKey
import Dalph.Foundation.Worklist
import Dalph.WorkflowJournal.RunLifecycle

/-!
# Agreement of graph knowledge at termination

Termination needs the current graph reads of a Run to agree.  A read is superseded when a later read
names it among its causal predecessors, directly or through others.  Two complete reads agree when
their keys are equal; the key reads every fact back except that it does not tell a task without
parent from one whose parent is named `<root>`.
-/

namespace Dalph

def lengthPrefixed (value : String) : String :=
  s!"{codeUnits value}:{value}"

def sortedTexts (values : List String) : List String :=
  values.insertionSort fun left right => Utf16.units left ≤ Utf16.units right

def canonicalSequence (values : List String) : String :=
  String.intercalate "|" ((sortedTexts values).map lengthPrefixed)

def lifecycleText (row : TaskId × TaskLifecycle) : String :=
  lengthPrefixed row.1.value ++ "=" ++ row.2.tag

def prerequisiteText (row : TaskId × List TaskId) : String :=
  lengthPrefixed row.1.value ++ "=" ++ canonicalSequence (row.2.map (·.value))

def groupingText (row : TaskId × Option TaskId) : String :=
  lengthPrefixed row.1.value ++ "=" ++ row.2.elim "<root>" (·.value)

/-- Tracker graph meaning of a complete observation, without revisions and read freshness. -/
def graphFactsKey (observation : CompleteTaskTrackerFactsObserved) : String :=
  let families := observation.factFamilies
  String.intercalate ";"
    ([ canonicalSequence (families.identities.taskIds.map (·.value))
     , canonicalSequence (families.lifecycles.rows.map lifecycleText)
     , canonicalSequence (families.prerequisites.rows.map prerequisiteText)
     , canonicalSequence (families.groupings.rows.map groupingText)
     , canonicalSequence (families.membership.memberTaskIds.map (·.value)) ].map lengthPrefixed)

structure GraphObservationRecord where
  operationId : OperationId
  observation : TaskTrackerFactsObservation
  position : JournalPosition
deriving DecidableEq

def graphObservationRecords (records : List JournalRecord) : List GraphObservationRecord :=
  records.filterMap fun record =>
    (record.trackerFacts?.filter (·.isGraphFacts)).map fun observation =>
      { operationId := observation.operationId, observation, position := record.position }

abbrev GraphReadPredecessors := KeyedMap OperationId (List OperationId)

/-- Predecessors that the graph read intents of a history name; a later intent of a read wins. -/
def graphReadPredecessors (records : List JournalRecord) : GraphReadPredecessors :=
  KeyedMap.ofEntries (records.filterMap fun record =>
    (record.trackerRead?.bind (·.graph?)).map fun operation =>
      (operation.operationId, operation.predecessorOperationIds))

def predecessorsOf (operations : GraphReadPredecessors) (operationId : OperationId) :
    List OperationId :=
  (operations.lookup operationId).getD []

/-- One traversal: reads to visit, the next one first, reads visited, and reads superseded. -/
structure SupersessionSearch where
  pending : List OperationId
  visited : List OperationId
  superseded : KeySet OperationId

namespace SupersessionSearch

/-- Visit at most the given number of pending reads.  An observed predecessor is superseded; its own
traversal covers what it names. -/
def run (operations : GraphReadPredecessors) (observed : KeySet OperationId) :
    Nat → SupersessionSearch → SupersessionSearch
  | 0, search => search
  | steps + 1, search =>
      match search.pending with
      | [] => search
      | predecessor :: pending =>
          if predecessor ∈ search.visited then
            run operations observed steps { search with pending }
          else if predecessor ∈ observed then
            run operations observed steps
              { pending
                visited := search.visited ++ [predecessor]
                superseded := search.superseded.add predecessor }
          else
            run operations observed steps
              { pending := (predecessorsOf operations predecessor).reverse ++ pending
                visited := search.visited ++ [predecessor]
                superseded := search.superseded }

def start (operations : GraphReadPredecessors) (superseded : KeySet OperationId)
    (origin : OperationId) : SupersessionSearch :=
  { pending := (predecessorsOf operations origin).reverse
    visited := [origin]
    superseded }

def next (operations : GraphReadPredecessors) (observed : KeySet OperationId)
    (operationId : OperationId) : List OperationId :=
  if operationId ∈ observed then [] else predecessorsOf operations operationId

/-- Steps that empty the pending reads: one for each of them and for each edge still to follow. -/
def steps (operations : GraphReadPredecessors) (observed : KeySet OperationId)
    (search : SupersessionSearch) : Nat :=
  Worklist.work (next operations observed) operations.keys search.pending search.visited

def traverse (operations : GraphReadPredecessors) (observed superseded : KeySet OperationId)
    (origin : OperationId) : SupersessionSearch :=
  let search := start operations superseded origin
  run operations observed (steps operations observed search) search

end SupersessionSearch

/-- Observed reads that another observed read names among its predecessors. -/
def causallySupersededGraphReads (operations : GraphReadPredecessors)
    (observations : List GraphObservationRecord) : KeySet OperationId :=
  let observed := KeySet.fromIterable (observations.map (·.operationId))
  observed.items.foldl
    (fun superseded origin =>
      (SupersessionSearch.traverse operations observed superseded origin).superseded)
    KeySet.empty

/-- Two complete observations may speak about a common task. -/
def graphCoverageOverlaps (left right : TaskTrackerFactsObservation) : Bool :=
  match left.complete?, right.complete? with
  | some left, some right =>
      let leftCoverage := left.factFamilies.identities.evidence.coverage.explicitlyCoveredTaskIds
      let rightCoverage := right.factFamilies.identities.evidence.coverage.explicitlyCoveredTaskIds
      leftCoverage.isEmpty || rightCoverage.isEmpty || leftCoverage.any (· ∈ rightCoverage)
  | _, _ => true

def graphObservationFor (records : List GraphObservationRecord) :
    TaskTrackerFactsObservation → Option CompleteTaskTrackerFactsObserved
  | .completeTaskTrackerFacts facts => some facts
  | .unchangedTaskTrackerFactsReconfirmed facts =>
      (records.find? fun candidate =>
        candidate.operationId = facts.priorFullObservationOperationId ∧
          candidate.observation.complete?.isSome).bind (·.observation.complete?)
  | _ => none

/-- Two reads of one target report different graphs. -/
def graphObservationsContradict (observations : List GraphObservationRecord)
    (left right : GraphObservationRecord) : Bool :=
  left.operationId ≠ right.operationId &&
    taskTrackerTargetKey left.observation.target = taskTrackerTargetKey right.observation.target &&
    graphCoverageOverlaps left.observation right.observation &&
    match graphObservationFor observations left.observation,
        graphObservationFor observations right.observation with
    | some leftGraph, some rightGraph => graphFactsKey leftGraph ≠ graphFactsKey rightGraph
    | _, _ => false

/-- Contradictions between reads that are neither superseded nor reconfirmed. -/
def graphKnowledgeIssues (records : List JournalRecord) : List String :=
  let observations := graphObservationRecords records
  let superseded := causallySupersededGraphReads (graphReadPredecessors records) observations
  let reconfirmed := observations.filterMap fun candidate =>
    match candidate.observation with
    | .unchangedTaskTrackerFactsReconfirmed facts => some facts.priorFullObservationOperationId
    | _ => none
  let maximal := observations.filter fun candidate =>
    candidate.operationId ∉ superseded ∧ candidate.operationId ∉ reconfirmed
  if maximal.any fun left => maximal.any (graphObservationsContradict observations left) then
    ["termination requires tracker graph observations to be causally comparable"]
  else []

variable {operations : GraphReadPredecessors} {observed superseded : KeySet OperationId}
  {operationId origin other : OperationId} {search : SupersessionSearch}

theorem predecessorsOf_of_not_mem (absent : operationId ∉ operations.keys) :
    predecessorsOf operations operationId = [] := by
  unfold predecessorsOf
  rw [AList.lookup_eq_none.mpr fun member => absent (AList.mem_keys.mp member)]
  rfl

namespace SupersessionSearch

open Worklist (Reaches)

theorem next_of_not_mem (absent : operationId ∉ operations.keys) :
    next operations observed operationId = [] := by
  unfold next
  split
  · rfl
  · exact predecessorsOf_of_not_mem absent

theorem next_of_observed (member : operationId ∈ observed) :
    next operations observed operationId = [] :=
  if_pos member

theorem next_of_unobserved (absent : ¬ operationId ∈ observed) :
    next operations observed operationId = predecessorsOf operations operationId :=
  if_neg absent

theorem eq_of_reaches (member : origin ∈ observed)
    (path : Reaches (next operations observed) origin operationId) : operationId = origin := by
  obtain same | ⟨following, edge, _⟩ := Relation.ReflTransGen.cases_head path
  · exact same.symm
  · rw [next_of_observed member] at edge
    exact absurd edge List.not_mem_nil

theorem run_cons (steps : Nat) (predecessor : OperationId) (pending visited : List OperationId)
    (superseded : KeySet OperationId) :
    run operations observed (steps + 1) ⟨predecessor :: pending, visited, superseded⟩ =
      if predecessor ∈ visited then run operations observed steps ⟨pending, visited, superseded⟩
      else if predecessor ∈ observed then
        run operations observed steps
          ⟨pending, visited ++ [predecessor], superseded.add predecessor⟩
      else
        run operations observed steps
          ⟨(predecessorsOf operations predecessor).reverse ++ pending, visited ++ [predecessor],
            superseded⟩ :=
  rfl

/-- With enough steps nothing stays pending, and the reads superseded are the observed ones that the
pending reads lead to. -/
theorem run_spec {fuel : Nat} {pending visited : List OperationId}
    (settled : ∀ node ∈ visited, ∀ following ∈ next operations observed node,
      following ∈ visited ∨ following ∈ pending)
    (enough : Worklist.work (next operations observed) operations.keys pending visited ≤ fuel) :
    (run operations observed fuel ⟨pending, visited, superseded⟩).pending = [] ∧
      ∀ operationId,
        operationId ∈ (run operations observed fuel ⟨pending, visited, superseded⟩).superseded ↔
          operationId ∈ superseded ∨ (operationId ∈ observed ∧ operationId ∉ visited ∧
            ∃ queued ∈ pending, Reaches (next operations observed) queued operationId) := by
  induction fuel generalizing pending visited superseded with
  | zero =>
      have empty : pending = [] := by
        unfold Worklist.work at enough
        exact List.length_eq_zero_iff.mp (by omega)
      subst empty
      exact ⟨rfl, by simp [run]⟩
  | succ fuel induction =>
      cases pending with
      | nil => exact ⟨rfl, by simp [run]⟩
      | cons first rest =>
          rw [run_cons]
          by_cases known : first ∈ visited
          · have keeps : ∀ node ∈ visited, ∀ following ∈ next operations observed node,
                following ∈ visited ∨ following ∈ rest := by
              intro node member following edge
              obtain member | waits := settled node member following edge
              · exact Or.inl member
              · obtain rfl | waits := List.mem_cons.mp waits
                · exact Or.inl known
                · exact Or.inr waits
            have less : Worklist.work (next operations observed) operations.keys rest visited ≤
                fuel := by
              unfold Worklist.work at enough ⊢
              rw [List.length_cons] at enough
              omega
            rw [if_pos known]
            obtain ⟨done, members⟩ := induction keeps less
            refine ⟨done, fun operationId => (members operationId).trans (or_congr_right ?_)⟩
            refine and_congr_right fun _ => and_congr_right fun fresh => ⟨?_, ?_⟩
            · rintro ⟨queued, waits, path⟩
              exact ⟨queued, List.mem_cons_of_mem first waits, path⟩
            · rintro ⟨queued, waits, path⟩
              obtain rfl | waits := List.mem_cons.mp waits
              · exact (path.met_or_passes keeps known).resolve_left fresh
              · exact ⟨queued, waits, path⟩
          · have keeps : ∀ node ∈ visited ++ [first], ∀ following ∈ next operations observed node,
                following ∈ visited ++ [first] ∨
                  following ∈ (next operations observed first).reverse ++ rest := by
              intro node member following edge
              obtain member | same := Log.mem_concat.mp member
              · obtain member | waits := settled node member following edge
                · exact Or.inl (List.mem_append_left _ member)
                · obtain rfl | waits := List.mem_cons.mp waits
                  · exact Or.inl (by simp)
                  · exact Or.inr (List.mem_append_right _ waits)
              · rw [same] at edge
                exact Or.inr (List.mem_append_left _ (List.mem_reverse.mpr edge))
            have less : Worklist.work (next operations observed) operations.keys
                ((next operations observed first).reverse ++ rest) (visited ++ [first]) ≤ fuel := by
              have met := @Worklist.work_meet _ _ (next operations observed) operations.keys rest
                visited first (fun _ absent => next_of_not_mem absent) known
              unfold Worklist.work at enough met ⊢
              rw [List.length_append] at met ⊢
              rw [List.length_reverse]
              omega
            rw [if_neg known]
            by_cases seen : first ∈ observed
            · rw [next_of_observed seen] at keeps less
              rw [if_pos seen]
              obtain ⟨done, members⟩ := induction keeps less
              refine ⟨done, fun operationId => (members operationId).trans ?_⟩
              constructor
              · rintro (member | ⟨seen', fresh, queued, waits, path⟩)
                · obtain rfl | member := KeySet.mem_add.mp member
                  · exact Or.inr ⟨seen, known, operationId, List.mem_cons_self, .refl⟩
                  · exact Or.inl member
                · exact Or.inr ⟨seen', fun member => fresh (List.mem_append_left _ member), queued,
                    List.mem_cons_of_mem first waits, path⟩
              · rintro (member | ⟨seen', fresh, queued, waits, path⟩)
                · exact Or.inl (KeySet.mem_add.mpr (Or.inr member))
                · by_cases same : operationId = first
                  · exact Or.inl (KeySet.mem_add.mpr (Or.inl same))
                  · obtain rfl | waits := List.mem_cons.mp waits
                    · exact absurd (eq_of_reaches seen path) same
                    · exact Or.inr ⟨seen', by simp [fresh, same], queued, waits, path⟩
            · rw [next_of_unobserved seen] at keeps less
              rw [if_neg seen]
              obtain ⟨done, members⟩ := induction keeps less
              refine ⟨done, fun operationId => (members operationId).trans (or_congr_right ?_)⟩
              refine and_congr_right fun seen' => ?_
              have apart : operationId ≠ first := fun same => seen (same ▸ seen')
              constructor
              · rintro ⟨fresh, queued, waits, path⟩
                refine ⟨fun member => fresh (List.mem_append_left _ member), ?_⟩
                obtain edge | waits := List.mem_append.mp waits
                · refine ⟨first, List.mem_cons_self, .head ?_ path⟩
                  rw [next_of_unobserved seen]
                  exact List.mem_reverse.mp edge
                · exact ⟨queued, List.mem_cons_of_mem first waits, path⟩
              · rintro ⟨fresh, queued, waits, path⟩
                refine ⟨by simp [fresh, apart], ?_⟩
                obtain rfl | waits := List.mem_cons.mp waits
                · obtain same | ⟨following, edge, path⟩ := Relation.ReflTransGen.cases_head path
                  · exact absurd same.symm apart
                  · rw [next_of_unobserved seen] at edge
                    exact ⟨following, List.mem_append_left _ (List.mem_reverse.mpr edge), path⟩
                · exact ⟨queued, List.mem_append_right _ waits, path⟩

theorem traverse_spec (seen : origin ∈ observed) :
    (traverse operations observed superseded origin).pending = [] ∧
      ∀ operationId, operationId ∈ (traverse operations observed superseded origin).superseded ↔
        operationId ∈ superseded ∨ (operationId ∈ observed ∧ operationId ≠ origin ∧
          ∃ queued ∈ predecessorsOf operations origin,
            Reaches (next operations observed) queued operationId) := by
  have settled : ∀ node ∈ [origin], ∀ following ∈ next operations observed node,
      following ∈ [origin] ∨ following ∈ (predecessorsOf operations origin).reverse := by
    intro node member following edge
    rw [List.mem_singleton.mp member, next_of_observed seen] at edge
    exact absurd edge List.not_mem_nil
  obtain ⟨done, members⟩ := @run_spec operations observed superseded _ _ _ settled (Nat.le_refl _)
  refine ⟨done, fun operationId => (members operationId).trans ?_⟩
  simp only [List.mem_singleton, List.mem_reverse]

end SupersessionSearch

theorem mem_foldl_traverse {origins : List OperationId} (seen : ∀ origin ∈ origins, origin ∈ observed) :
    operationId ∈ origins.foldl (fun superseded origin =>
        (SupersessionSearch.traverse operations observed superseded origin).superseded) superseded ↔
      operationId ∈ superseded ∨ (operationId ∈ observed ∧ ∃ origin ∈ origins,
        operationId ≠ origin ∧ ∃ queued ∈ predecessorsOf operations origin,
          Worklist.Reaches (SupersessionSearch.next operations observed) queued operationId) := by
  induction origins generalizing superseded with
  | nil => simp
  | cons first origins induction =>
      obtain ⟨firstSeen, seen⟩ := List.forall_mem_cons.mp seen
      rw [List.foldl_cons, induction seen, (SupersessionSearch.traverse_spec firstSeen).2,
        or_assoc, ← and_or_left]
      simp only [List.mem_cons, exists_eq_or_imp]

def NamesPredecessor (operations : GraphReadPredecessors) (later earlier : OperationId) : Prop :=
  earlier ∈ predecessorsOf operations later

theorem exists_last_observed
    (path : Relation.ReflTransGen (NamesPredecessor operations) origin operationId) :
    (∃ last ∈ observed, operationId ≠ last ∧ ∃ queued ∈ predecessorsOf operations last,
        Worklist.Reaches (SupersessionSearch.next operations observed) queued operationId) ∨
      Worklist.Reaches (SupersessionSearch.next operations observed) origin operationId := by
  induction path using Relation.ReflTransGen.head_induction_on with
  | refl => exact Or.inr .refl
  | @head first second edge _ induction =>
      obtain found | direct := induction
      · exact Or.inl found
      · by_cases same : operationId = first
        · subst same
          exact Or.inr .refl
        · by_cases seen : first ∈ observed
          · exact Or.inl ⟨first, seen, same, second, edge, direct⟩
          · refine Or.inr (.head ?_ direct)
            rw [SupersessionSearch.next_of_unobserved seen]
            exact edge

/-- Each traversal empties its pending reads.  The reads superseded are exactly the observed ones
that are transitive predecessors of another observed read. -/
theorem causallySupersededGraphReads_exact (operations : GraphReadPredecessors)
    (observations : List GraphObservationRecord) :
    (∀ superseded, ∀ origin ∈ KeySet.fromIterable (observations.map (·.operationId)),
      (SupersessionSearch.traverse operations (.fromIterable (observations.map (·.operationId)))
        superseded origin).pending = []) ∧
    ∀ operationId, operationId ∈ causallySupersededGraphReads operations observations ↔
      operationId ∈ observations.map (·.operationId) ∧
        ∃ other ∈ observations.map (·.operationId), other ≠ operationId ∧
          Relation.TransGen (NamesPredecessor operations) other operationId := by
  constructor
  · intro superseded origin seen
    exact (SupersessionSearch.traverse_spec seen).1
  · intro operationId
    unfold causallySupersededGraphReads
    dsimp only
    rw [mem_foldl_traverse fun _ => id]
    constructor
    · rintro (impossible | ⟨seen, origin, originSeen, apart, queued, edge, path⟩)
      · exact absurd impossible KeySet.not_mem_empty
      · refine ⟨KeySet.mem_fromIterable.mp seen, origin, KeySet.mem_fromIterable.mp originSeen,
          Ne.symm apart, .head' edge ?_⟩
        refine Relation.ReflTransGen.mono (fun first second step => ?_) _ _ path
        unfold SupersessionSearch.next at step
        split at step
        · exact absurd step List.not_mem_nil
        · exact step
    · rintro ⟨seen, other, otherSeen, apart, path⟩
      obtain ⟨queued, edge, rest⟩ := Relation.TransGen.head'_iff.mp path
      have found := @exists_last_observed operations
        (.fromIterable (observations.map (·.operationId))) operationId queued rest
      refine Or.inr ⟨KeySet.mem_fromIterable.mpr seen, ?_⟩
      obtain ⟨last, lastSeen, apart, queued, edge, direct⟩ | direct := found
      · exact ⟨last, lastSeen, apart, queued, edge, direct⟩
      · exact ⟨other, KeySet.mem_fromIterable.mpr otherSeen, Ne.symm apart, queued, edge, direct⟩

/-- Two complete observations list the same graph, rows and identities in any order.  Identities,
members and the prerequisites of a task are listed without repetition, so their order is all that
the lists add to the sets. -/
structure SameFactsButGroupings (left right : CompleteTaskGraphFactFamilies) : Prop where
  taskIds : left.identities.taskIds.Perm right.identities.taskIds
  lifecycles : left.lifecycles.rows.Perm right.lifecycles.rows
  prerequisites : ∃ rows, left.prerequisites.rows.Perm rows ∧
    List.Forall₂ (fun row row' => row.1 = row'.1 ∧ row.2.Perm row'.2) rows right.prerequisites.rows
  members : left.membership.memberTaskIds.Perm right.membership.memberTaskIds

structure SameGraphFacts (left right : CompleteTaskTrackerFactsObserved) : Prop where
  facts : SameFactsButGroupings left.factFamilies right.factFamilies
  groupings : left.factFamilies.groupings.rows.Perm right.factFamilies.groupings.rows

theorem lengthPrefixed_eq (value : String) :
    lengthPrefixed value =
      TextKey.prefixed (fun char => if char.val < 0x10000 then 1 else 2) value :=
  rfl

theorem positive_charWeight (char : Char) : 0 < if char.val < 0x10000 then 1 else 2 := by
  split <;> decide

theorem lengthPrefixed_append_inj {text text' rest rest' : String} :
    lengthPrefixed text ++ rest = lengthPrefixed text' ++ rest' ↔ text = text' ∧ rest = rest' := by
  rw [lengthPrefixed_eq, lengthPrefixed_eq]
  exact TextKey.prefixed_append_inj positive_charWeight

theorem intercalate_lengthPrefixed_inj {separator : String} {texts texts' : List String} :
    String.intercalate separator (texts.map lengthPrefixed) =
      String.intercalate separator (texts'.map lengthPrefixed) ↔ texts = texts' :=
  TextKey.intercalate_prefixed_inj positive_charWeight

theorem sortedTexts_perm (texts : List String) : (sortedTexts texts).Perm texts :=
  List.perm_insertionSort _ texts

theorem sortedTexts_eq_iff {texts texts' : List String} :
    sortedTexts texts = sortedTexts texts' ↔ texts.Perm texts' := by
  constructor
  · intro same
    exact (sortedTexts_perm texts).symm.trans (same ▸ sortedTexts_perm texts')
  · intro perm
    let before (left right : String) : Prop := Utf16.units left ≤ Utf16.units right
    have total : Std.Total before := ⟨fun _ _ => le_total _ _⟩
    have transitive : IsTrans String before := ⟨fun _ _ _ => le_trans⟩
    have antisymmetric : Std.Antisymm before :=
      ⟨fun _ _ first second => Utf16.units_injective (le_antisymm first second)⟩
    exact ((sortedTexts_perm texts).trans (perm.trans (sortedTexts_perm texts').symm)).eq_of_pairwise'
      (List.pairwise_insertionSort before texts) (List.pairwise_insertionSort before texts')

theorem canonicalSequence_inj {texts texts' : List String} :
    canonicalSequence texts = canonicalSequence texts' ↔ texts.Perm texts' := by
  unfold canonicalSequence
  rw [intercalate_lengthPrefixed_inj, sortedTexts_eq_iff]

theorem map_perm_map_iff {Row : Type} {text : Row → String} {rows rows' : List Row} :
    (rows.map text).Perm (rows'.map text) ↔
      ∃ listed, rows.Perm listed ∧
        List.Forall₂ (fun row row' => text row = text row') listed rows' := by
  constructor
  · intro perm
    have own : List.Forall₂ (fun value row => value = text row) (rows.map text) rows :=
      List.forall₂_map_left_iff.mpr (List.forall₂_same.mpr fun _ _ => rfl)
    obtain ⟨listed, texts, listing⟩ := List.perm_comp_forall₂ perm.symm own
    refine ⟨listed, listing.symm, List.Forall₂.flip ?_⟩
    exact (List.forall₂_map_left_iff.mp texts).imp fun _ _ same => same.symm
  · rintro ⟨listed, perm, texts⟩
    have same : listed.map text = rows'.map text := by
      rw [← List.forall₂_eq_eq_eq, List.forall₂_map_left_iff, List.forall₂_map_right_iff]
      exact texts
    exact same ▸ perm.map text

theorem exists_listed_congr {Row : Type} {alike alike' : Row → Row → Prop} {rows rows' : List Row}
    (agree : ∀ row row', alike row row' ↔ alike' row row') :
    (∃ listed, rows.Perm listed ∧ List.Forall₂ alike listed rows') ↔
      ∃ listed, rows.Perm listed ∧ List.Forall₂ alike' listed rows' := by
  have same : alike = alike' := funext₂ fun row row' => propext (agree row row')
  rw [same]

theorem value_injective : Function.Injective TaskId.value := by
  rintro ⟨_⟩ ⟨_⟩ rfl
  rfl

theorem tag_injective : Function.Injective TaskLifecycle.tag := by
  intro lifecycle lifecycle' same
  cases lifecycle <;> cases lifecycle' <;> first | rfl | exact absurd same (by decide)

theorem identityText_inj {taskId taskId' : TaskId} {text text' : String} :
    lengthPrefixed taskId.value ++ "=" ++ text = lengthPrefixed taskId'.value ++ "=" ++ text' ↔
      taskId = taskId' ∧ text = text' := by
  rw [String.append_assoc, String.append_assoc, lengthPrefixed_append_inj, String.append_right_inj,
    value_injective.eq_iff]

theorem lifecycleText_inj : Function.Injective lifecycleText := by
  rintro ⟨taskId, lifecycle⟩ ⟨taskId', lifecycle'⟩ same
  obtain ⟨taskIds, tags⟩ := identityText_inj.mp same
  exact Prod.ext taskIds (tag_injective tags)

theorem prerequisiteText_eq_iff {row row' : TaskId × List TaskId} :
    prerequisiteText row = prerequisiteText row' ↔ row.1 = row'.1 ∧ row.2.Perm row'.2 := by
  unfold prerequisiteText
  rw [identityText_inj, canonicalSequence_inj, List.map_perm_map_iff value_injective]

/-- Two grouping rows of one task that a key does not tell apart. -/
structure AlikeGroupings (row row' : TaskId × Option TaskId) : Prop where
  taskId : row.1 = row'.1
  parent : row.2 = row'.2 ∨ row.2 = none ∧ row'.2 = some ⟨"<root>"⟩ ∨
    row.2 = some ⟨"<root>"⟩ ∧ row'.2 = none

theorem groupingText_eq_iff {row row' : TaskId × Option TaskId} :
    groupingText row = groupingText row' ↔ AlikeGroupings row row' := by
  obtain ⟨taskId, parent⟩ := row
  obtain ⟨taskId', parent'⟩ := row'
  unfold groupingText
  rw [identityText_inj]
  constructor
  · rintro ⟨same, parents⟩
    refine ⟨same, ?_⟩
    cases parent with
    | none =>
        cases parent' with
        | none => exact Or.inl rfl
        | some parent' =>
            have named : parent'.value = "<root>" := parents.symm
            exact Or.inr (Or.inl ⟨rfl, congrArg some (value_injective named)⟩)
    | some parent =>
        cases parent' with
        | none => exact Or.inr (Or.inr ⟨congrArg some (value_injective parents), rfl⟩)
        | some parent' => exact Or.inl (congrArg some (value_injective parents))
  · rintro ⟨same, rfl | ⟨rfl, rfl⟩ | ⟨rfl, rfl⟩⟩
    · exact ⟨same, rfl⟩
    · exact ⟨same, rfl⟩
    · exact ⟨same, rfl⟩

/-- The two observations agree in everything but that some tasks have no parent in one of them and
the parent named `<root>` in the other. -/
structure DifferInRootOnly (left right : CompleteTaskTrackerFactsObserved) : Prop where
  facts : SameFactsButGroupings left.factFamilies right.factFamilies
  alike : ∃ rows, left.factFamilies.groupings.rows.Perm rows ∧
    List.Forall₂ AlikeGroupings rows right.factFamilies.groupings.rows
  apart : ¬ left.factFamilies.groupings.rows.Perm right.factFamilies.groupings.rows

theorem graphFactsKey_eq_iff {left right : CompleteTaskTrackerFactsObserved} :
    graphFactsKey left = graphFactsKey right ↔
      SameFactsButGroupings left.factFamilies right.factFamilies ∧
        ∃ rows, left.factFamilies.groupings.rows.Perm rows ∧
          List.Forall₂ AlikeGroupings rows right.factFamilies.groupings.rows := by
  unfold graphFactsKey
  dsimp only
  rw [intercalate_lengthPrefixed_inj]
  simp only [List.cons.injEq, and_true, canonicalSequence_inj,
    List.map_perm_map_iff value_injective, List.map_perm_map_iff lifecycleText_inj]
  rw [map_perm_map_iff, map_perm_map_iff,
    exists_listed_congr fun row row' => prerequisiteText_eq_iff,
    exists_listed_congr fun row row' => groupingText_eq_iff]
  constructor
  · rintro ⟨taskIds, lifecycles, prerequisites, groupings, members⟩
    exact ⟨⟨taskIds, lifecycles, prerequisites, members⟩, groupings⟩
  · rintro ⟨⟨taskIds, lifecycles, prerequisites, members⟩, groupings⟩
    exact ⟨taskIds, lifecycles, prerequisites, groupings, members⟩

theorem AlikeGroupings.refl (row : TaskId × Option TaskId) : AlikeGroupings row row :=
  ⟨rfl, Or.inl rfl⟩

/-- Keys agree exactly for the same graph, unless the two observations differ in a parent that one
of them lacks and the other names `<root>`. -/
theorem graphFactsKey_faithful_iff (left right : CompleteTaskTrackerFactsObserved) :
    (graphFactsKey left = graphFactsKey right ↔ SameGraphFacts left right) ↔
      ¬ DifferInRootOnly left right := by
  rw [graphFactsKey_eq_iff]
  constructor
  · rintro faithful ⟨facts, alike, apart⟩
    exact apart (faithful.mp ⟨facts, alike⟩).groupings
  · intro told
    constructor
    · rintro ⟨facts, alike⟩
      refine ⟨facts, ?_⟩
      by_contra apart
      exact told ⟨facts, alike, apart⟩
    · rintro ⟨facts, groupings⟩
      exact ⟨facts, _, groupings, List.forall₂_same.mpr fun row _ => AlikeGroupings.refl row⟩

def oneTaskFamilies (parent : Option TaskId) : CompleteTaskGraphFactFamilies :=
  let target := TrackerTarget.fixture "tracker"
  let evidence : CompleteFactEvidence :=
    { contentIdentity := ⟨"content"⟩
      coverage := { explicitlyCoveredTaskIds := [], target }
      freshnessOperationId := ⟨"read"⟩ }
  { identities :=
      { evidence
        taskIds := [⟨"task"⟩]
        descriptors := [(⟨"task"⟩, { title := "Task", issueNumber := none })]
        target }
    lifecycles := { evidence, subjectTaskIds := [⟨"task"⟩], rows := [(⟨"task"⟩, .opened)] }
    prerequisites := { evidence, subjectTaskIds := [⟨"task"⟩], rows := [(⟨"task"⟩, [])] }
    groupings := { evidence, subjectTaskIds := [⟨"task"⟩], rows := [(⟨"task"⟩, parent)] }
    membership := { evidence, memberTaskIds := [⟨"task"⟩], target } }

theorem oneTaskFamilies_valid (parent : Option TaskId) :
    invalidCompleteTaskGraphFacts (oneTaskFamilies parent) ⟨"read"⟩ none (.fixture "tracker") =
      none := by
  simp [invalidCompleteTaskGraphFacts, completeFactFamilySubjectsDiffer, invalidCompleteCoverage,
    factFamiliesCoverTarget, coverageSubjectsDiffer, contentIdentitiesDiffer,
    CompleteTaskGraphFactFamilies.evidence, oneTaskFamilies]

def oneTaskRead (parent : Option TaskId) : CompleteTaskTrackerFactsObserved :=
  { factFamilies := oneTaskFamilies parent
    operationId := ⟨"read"⟩
    rootTaskId := none
    target := .fixture "tracker"
    valid := oneTaskFamilies_valid parent }

/-- A task without parent and a task below `<root>` have the same key. -/
theorem graphFactsKey_collision :
    ¬ ∀ left right : CompleteTaskTrackerFactsObserved,
      graphFactsKey left = graphFactsKey right ↔ SameGraphFacts left right := by
  intro faithful
  have keys : graphFactsKey (oneTaskRead none) = graphFactsKey (oneTaskRead (some ⟨"<root>"⟩)) :=
    rfl
  have groupings := ((faithful _ _).mp keys).groupings
  exact absurd (List.perm_singleton.mp groupings.symm) (by decide)

end Dalph
