import Dalph.Foundation.Machine
import Dalph.WorkflowJournal.EvidenceIndex

/-!
# Views of one journal

Sequences and evidence are made by appending to one that was made before, whether or not something
was appended to it already.  A plain list for each of them says what it shows, also after others
branched off.
-/

namespace Dalph

open PersistentSequence (Increasing)

/-- The sequences and the evidence made so far, each named by its index. -/
structure RecordViews where
  sequences : List (PersistentSequence JournalRecord)
  evidence : List JournalRecordEvidence

def emptyRecordViews : RecordViews where
  sequences := [.empty]
  evidence := [emptyJournalEvidence]

inductive RecordViewRequest where
  | appendJournalRecord (view : Nat) (record : JournalRecord)
  | journalRecordsBefore (view : Nat) (exclusiveEnd : Int)
  | appendJournalEvidence (view : Nat) (record : JournalRecord)

/-- Makes one more view of an earlier one. -/
def recordViewStep : RecordViewRequest → RecordViews → Unit × RecordViews
  | .appendJournalRecord view record, views =>
      ((), { views with sequences := views.sequences ++
        (views.sequences[view]?.map (·.append record)).toList })
  | .journalRecordsBefore view exclusiveEnd, views =>
      ((), { views with sequences := views.sequences ++
        (views.sequences[view]?.map (·.before exclusiveEnd)).toList })
  | .appendJournalEvidence view record, views =>
      ((), { views with evidence := views.evidence ++
        (views.evidence[view]?.map (appendJournalEvidence · record)).toList })

structure ListedViews where
  sequences : List (List JournalRecord)
  evidence : List (List JournalRecord)
deriving DecidableEq

def listedViewStep : RecordViewRequest → ListedViews → Unit × ListedViews
  | .appendJournalRecord view record, views =>
      ((), { views with sequences := views.sequences ++
        (views.sequences[view]?.map (· ++ [record])).toList })
  | .journalRecordsBefore view exclusiveEnd, views =>
      ((), { views with sequences := views.sequences ++
        (views.sequences[view]?.map (·.take exclusiveEnd.toNat)).toList })
  | .appendJournalEvidence view record, views =>
      ((), { views with evidence := views.evidence ++
        (views.evidence[view]?.map (· ++ [record])).toList })

def RecordViews.listed (views : RecordViews) : ListedViews where
  sequences := views.sequences.map (·.toList)
  evidence := views.evidence.map (·.records.toList)

/-- An appended record stands behind every record of the view that it is appended to. -/
def extendsView : RecordViewRequest → RecordViews → Bool
  | .appendJournalRecord view record, views =>
      views.sequences[view]?.all fun prior =>
        prior.toList.all fun earlier => earlier.position < record.position
  | .journalRecordsBefore _ _, _ => true
  | .appendJournalEvidence view record, views =>
      1 ≤ record.position && views.evidence[view]?.all fun prior =>
        prior.records.toList.all fun earlier => earlier.position < record.position

/-- Every view is in the order of its positions, and evidence shows all that it indexes. -/
structure RecordViews.Ordered (views : RecordViews) : Prop where
  sequences : ∀ view ∈ views.sequences, Increasing JournalRecord.position view.toList
  evidence : ∀ source ∈ views.evidence, Chronological source.records.toList ∧
    Shows source source.records.toList source.records.toList

section

variable {views : RecordViews} {request : RecordViewRequest} {records : List JournalRecord}
  {record : JournalRecord}

theorem increasing_concat (increasing : InOrder records)
    (later : ∀ earlier ∈ records, earlier.position < record.position) :
    InOrder (records ++ [record]) := by
  refine List.pairwise_append.mpr ⟨increasing, List.pairwise_singleton _ record, ?_⟩
  intro earlier member last here
  rw [List.mem_singleton.mp here]
  exact later earlier member

theorem RecordViews.Ordered.step (ordered : views.Ordered) (fits : extendsView request views) :
    (recordViewStep request views).2.Ordered := by
  cases request with
  | appendJournalRecord view record =>
      refine ⟨fun other member => ?_, ordered.evidence⟩
      obtain old | made := List.mem_append.mp member
      · exact ordered.sequences other old
      · obtain ⟨prior, found, rfl⟩ := Option.map_eq_some_iff.mp (Option.mem_toList.mp made)
        rw [PersistentSequence.toList_append]
        refine increasing_concat (ordered.sequences prior (List.mem_of_getElem? found)) ?_
        simpa [extendsView, found] using fits
  | journalRecordsBefore view exclusiveEnd =>
      refine ⟨fun other member => ?_, ordered.evidence⟩
      obtain old | made := List.mem_append.mp member
      · exact ordered.sequences other old
      · obtain ⟨prior, found, rfl⟩ := Option.map_eq_some_iff.mp (Option.mem_toList.mp made)
        rw [PersistentSequence.toList_before]
        exact (ordered.sequences prior (List.mem_of_getElem? found)).sublist
          (List.take_sublist _ _)
  | appendJournalEvidence view record =>
      refine ⟨ordered.sequences, fun other member => ?_⟩
      obtain old | made := List.mem_append.mp member
      · exact ordered.evidence other old
      · obtain ⟨prior, found, rfl⟩ := Option.map_eq_some_iff.mp (Option.mem_toList.mp made)
        obtain ⟨chronological, shows⟩ := ordered.evidence prior (List.mem_of_getElem? found)
        obtain ⟨positive, later⟩ : 1 ≤ record.position ∧
            ∀ earlier ∈ prior.records.toList, earlier.position < record.position := by
          simpa [extendsView, found] using fits
        have appended := shows.append chronological.increasing later
        rw [appended.toList]
        refine ⟨⟨increasing_concat chronological.increasing later, fun other member => ?_⟩,
          appended⟩
        obtain old | new := Log.mem_concat.mp member
        · exact chronological.positive other old
        · rw [new]
          exact positive

theorem listed_step (request : RecordViewRequest) (views : RecordViews) :
    (recordViewStep request views).2.listed = (listedViewStep request views.listed).2 := by
  cases request with
  | appendJournalRecord view record =>
      simp only [recordViewStep, listedViewStep, RecordViews.listed, List.map_append,
        List.getElem?_map, Option.map_map]
      cases views.sequences[view]? <;> simp
  | journalRecordsBefore view exclusiveEnd =>
      simp only [recordViewStep, listedViewStep, RecordViews.listed, List.map_append,
        List.getElem?_map, Option.map_map]
      cases views.sequences[view]? <;> simp [PersistentSequence.toList_before]
  | appendJournalEvidence view record =>
      simp only [recordViewStep, listedViewStep, RecordViews.listed, List.map_append,
        List.getElem?_map, Option.map_map]
      cases views.evidence[view]? <;> simp [appendJournalEvidence]

theorem listed_run (requests : List RecordViewRequest) (views : RecordViews) :
    (Machine.run recordViewStep views requests).2.listed =
      (Machine.run listedViewStep views.listed requests).2 := by
  induction requests generalizing views with
  | nil => rfl
  | cons request requests induction =>
      rw [Machine.run_cons, Machine.run_cons, induction, listed_step]

theorem views_kept (later : List RecordViewRequest) (views : RecordViews) :
    views.sequences <+: (Machine.run recordViewStep views later).2.sequences ∧
      views.evidence <+: (Machine.run recordViewStep views later).2.evidence := by
  induction later generalizing views with
  | nil => exact ⟨List.prefix_rfl, List.prefix_rfl⟩
  | cons request later induction =>
      have step : views.sequences <+: (recordViewStep request views).2.sequences ∧
          views.evidence <+: (recordViewStep request views).2.evidence := by
        cases request <;> simp [recordViewStep]
      obtain ⟨sequences, evidence⟩ := induction (recordViewStep request views).2
      exact ⟨step.1.trans sequences, step.2.trans evidence⟩

end

/-- Whatever views were branched off, each shows its own list: the count through a position and the
prefix of that length give the records up to it, and a window gives those before its end. -/
theorem recordViews_exact (requests later : List RecordViewRequest)
    (extend : Machine.Meets recordViewStep (fun request views => extendsView request views = true)
      emptyRecordViews requests) :
    let views := (Machine.run recordViewStep emptyRecordViews requests).2
    views.listed = (Machine.run listedViewStep ⟨[[]], [[]]⟩ requests).2 ∧
    (∀ view ∈ views.sequences, ∀ position : Int,
      let through := view.toList.filter fun record => (record.position : Int) ≤ position
      recordCountThroughPosition view position = through.length ∧
        (view.before (recordCountThroughPosition view position)).toList = through) ∧
    (∀ source ∈ views.evidence, ∀ position : Int,
      let window := journalEvidenceBefore source position
      let earlier := source.records.toList.filter fun record => (record.position : Int) < position
      window.records.toList = earlier ∧
        ∀ kind, visibleRecordCount window (window.indexes.byKind.bucket kind) =
          (earlier.filter fun record => record.event.tag = kind).length) ∧
    let after := (Machine.run recordViewStep emptyRecordViews (requests ++ later)).2
    views.sequences <+: after.sequences ∧ views.evidence <+: after.evidence := by
  intro views
  have ordered : views.Ordered :=
    Machine.run_preserves_of_meets (fun _ _ fits kept => kept.step fits)
      ⟨by simp [emptyRecordViews, PersistentSequence.empty, PersistentSequence.toList, Increasing],
        by
          simp only [emptyRecordViews, List.mem_singleton, forall_eq]
          exact ⟨⟨List.Pairwise.nil, by simp [emptyJournalEvidence, PersistentSequence.empty,
            PersistentSequence.toList]⟩, shows_journalEvidenceFrom List.Pairwise.nil⟩⟩ extend
  refine ⟨listed_run requests emptyRecordViews, fun view member position => ?_,
    fun source member position => ?_, ?_⟩
  · have increasing := ordered.sequences view member
    refine ⟨PersistentSequence.countThrough_eq increasing position, ?_⟩
    rw [PersistentSequence.toList_before, Int.toNat_natCast]
    exact PersistentSequence.take_countThrough increasing position
  · obtain ⟨chronological, shows⟩ := ordered.evidence source member
    have window := shows.before chronological position
    refine ⟨window.toList, fun kind => ?_⟩
    exact window.visibleRecordCount_eq chronological.increasing (window.indexed.byKind kind)
  · intro after
    simp only [after, Machine.run_append]
    exact views_kept later views

def cancellationAt (position : JournalPosition) : JournalRecord where
  event := .runCancellationApplied
  key := { value := "cancellation" }
  position
  runId := ⟨"branches", by decide⟩

def branchedRequests : List RecordViewRequest :=
  [.appendJournalRecord 0 (cancellationAt 1), .appendJournalRecord 1 (cancellationAt 4),
    .appendJournalRecord 1 (cancellationAt 2), .appendJournalEvidence 0 (cancellationAt 1),
    .appendJournalEvidence 1 (cancellationAt 4), .appendJournalEvidence 1 (cancellationAt 2)]

theorem branchedRequests_exact :
    let branched := [[], [cancellationAt 1], [cancellationAt 1, cancellationAt 4],
      [cancellationAt 1, cancellationAt 2]]
    (Machine.run recordViewStep emptyRecordViews branchedRequests).2.listed =
      ⟨branched, branched⟩ :=
  (recordViews_exact branchedRequests [] (by decide +kernel)).1

end Dalph
