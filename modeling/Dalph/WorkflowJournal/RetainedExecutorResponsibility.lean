import Dalph.WorkflowJournal.EvidenceIndex

/-!
# Retained executor responsibilities

An attempt is retained from the beginning of its executor's responsibility until a terminal report,
a replacement or an abandonment.  Each change leaves a snapshot of the retained attempts, and a
query reads the last snapshot up to its cutoff.
-/

namespace Dalph

open PersistentSequence (Increasing)

structure RetainedExecutorResponsibilitySubject where
  plannedAttempt : PlannedTaskAttempt
  beganAt : JournalPosition
deriving DecidableEq

abbrev RetainedSubjects := KeyedMap AttemptId RetainedExecutorResponsibilitySubject

/-- The attempts that are retained behind a position. -/
structure SubjectSnapshot where
  position : JournalPosition
  subjects : RetainedSubjects

abbrev RetainedExecutorResponsibilitySubjects := SequenceIndex RunId SubjectSnapshot

inductive RetentionChange where
  | retain (plannedAttempt : PlannedTaskAttempt)
  | release (runId : RunId) (attemptId : AttemptId)

namespace RetentionChange

def runId : RetentionChange → RunId
  | retain plannedAttempt => plannedAttempt.runId
  | release runId _ => runId

def releasing (plannedAttempt : PlannedTaskAttempt) : RetentionChange :=
  release plannedAttempt.runId plannedAttempt.attemptId

end RetentionChange

/-- What an event changes; the replacement of a rejected result changes nothing. -/
def changeFor : WorkflowJournalEvent → Option RetentionChange
  | .plannedAttemptExecutorWorkResponsibilityBegan plannedAttempt => some (.retain plannedAttempt)
  | .plannedAttemptReplaced event => some (.releasing event.subject.plannedAttempt)
  | .attemptImplementationAbandoned event => some (.releasing event.subject.plannedAttempt)
  | .plannedAttemptExecutorWorkReported event =>
      if event.report.isTerminal then
        some (.release event.report.correlation.runId event.report.correlation.attemptId)
      else none
  | _ => none

/-- The subjects behind a change; a release of what is not retained is none. -/
def applyRetentionChange (subjects : RetainedSubjects) (change : RetentionChange)
    (position : JournalPosition) : Option RetainedSubjects :=
  match change with
  | .retain plannedAttempt =>
      some (subjects.set plannedAttempt.attemptId ⟨plannedAttempt, position⟩)
  | .release _ attemptId =>
      if (subjects.lookup attemptId).isSome then some (subjects.erase attemptId) else none

def latestSubjects (index : RetainedExecutorResponsibilitySubjects) (runId : RunId) :
    RetainedSubjects :=
  (((index.bucket runId).get (-1)).map (·.subjects)).getD ∅

def appendRetainedExecutorResponsibilitySubjects (index : RetainedExecutorResponsibilitySubjects)
    (record : JournalRecord) : RetainedExecutorResponsibilitySubjects :=
  match changeFor record.event with
  | none => index
  | some change =>
      if change.runId ≠ record.runId then index
      else
        match applyRetentionChange (latestSubjects index record.runId) change record.position with
        | none => index
        | some subjects => index.push record.runId ⟨record.position, subjects⟩

def retainedExecutorResponsibilityFrom (records : List JournalRecord) :
    RetainedExecutorResponsibilitySubjects :=
  records.foldl appendRetainedExecutorResponsibilitySubjects ∅

def subjectsThrough (index : RetainedExecutorResponsibilitySubjects) (runId : RunId)
    (throughPosition : Int) : RetainedSubjects :=
  (((index.bucket runId).lastVisible (·.position) throughPosition).map (·.subjects)).getD ∅

def retainedExecutorResponsibilitySubjectsAt (index : RetainedExecutorResponsibilitySubjects)
    (runId : RunId) (throughPosition : Int) : List RetainedExecutorResponsibilitySubject :=
  ((subjectsThrough index runId throughPosition).entries.map (·.2)).mergeSort fun left right =>
    left.beganAt ≤ right.beganAt

def changeWithin (runId : RunId) (record : JournalRecord) : Option RetentionChange :=
  (changeFor record.event).filter fun change => record.runId = runId && change.runId = record.runId

def retainThrough (runId : RunId) (subjects : RetainedSubjects) (record : JournalRecord) :
    RetainedSubjects :=
  ((changeWithin runId record).bind (applyRetentionChange subjects · record.position)).getD subjects

def retainedSubjects (runId : RunId) (records : List JournalRecord) : RetainedSubjects :=
  records.foldl (retainThrough runId) ∅

section

variable {runId : RunId} {index : RetainedExecutorResponsibilitySubjects} {record : JournalRecord}
  {records : List JournalRecord} {cutoff : Int}

theorem toList_bucket_append :
    ((appendRetainedExecutorResponsibilitySubjects index record).bucket runId).toList =
      (index.bucket runId).toList ++
        ((changeWithin runId record).bind (applyRetentionChange (latestSubjects index runId) ·
          record.position)).toList.map (SubjectSnapshot.mk record.position) := by
  unfold appendRetainedExecutorResponsibilitySubjects changeWithin
  cases changed : changeFor record.event with
  | none => simp
  | some change =>
      by_cases own : record.runId = runId
      · subst own
        by_cases foreign : change.runId = record.runId
        · cases applied : applyRetentionChange (latestSubjects index record.runId) change
              record.position with
          | none => simp [foreign, applied, Option.filter_some]
          | some subjects => simp [foreign, applied, SequenceIndex.bucket_push, Option.filter_some]
        · simp [foreign]
      · by_cases foreign : change.runId = record.runId
        · have other : runId ≠ record.runId := fun same => own same.symm
          cases applied : applyRetentionChange (latestSubjects index record.runId) change
              record.position with
          | none => simp [own, foreign, applied]
          | some subjects => simp [own, foreign, applied, SequenceIndex.bucket_push, other]
        · simp [own, foreign]

theorem retainedExecutorResponsibilityFrom_concat :
    retainedExecutorResponsibilityFrom (records ++ [record]) =
      appendRetainedExecutorResponsibilitySubjects (retainedExecutorResponsibilityFrom records)
        record := by
  rw [retainedExecutorResponsibilityFrom, List.foldl_append]
  rfl

theorem retainedSubjects_concat :
    retainedSubjects runId (records ++ [record]) =
      retainThrough runId (retainedSubjects runId records) record := by
  rw [retainedSubjects, List.foldl_append]
  rfl

theorem filtered_eq_self {position : JournalPosition} {cutoff : Int}
    (before : ∀ other ∈ records, other.position < position)
    (through : (position : Int) ≤ cutoff) :
    (records.filter fun record => (record.position : Int) ≤ cutoff) = records := by
  refine List.filter_eq_self.mpr fun other member => ?_
  have earlier := Int.ofNat_lt.mpr (before other member)
  simpa using Int.le_of_lt (Int.lt_of_lt_of_le earlier through)

/-- What the index keeps of chronological records: snapshots in order, the last of which is the
scan of the records up to any cutoff. -/
structure IndexesRetained (runId : RunId) (records : List JournalRecord)
    (snapshots : List SubjectSnapshot) : Prop where
  increasing : Increasing SubjectSnapshot.position snapshots
  recorded : ∀ snapshot ∈ snapshots, ∃ record ∈ records, record.position = snapshot.position
  last : ∀ cutoff : Int,
    ((snapshots.filter fun snapshot => (snapshot.position : Int) ≤ cutoff).getLast?.map
      (·.subjects)).getD ∅ =
        retainedSubjects runId (records.filter fun record => (record.position : Int) ≤ cutoff)

theorem indexesRetained_from (increasing : InOrder records) :
    IndexesRetained runId records
      ((retainedExecutorResponsibilityFrom records).bucket runId).toList := by
  induction records using List.reverseRecOn with
  | nil => exact ⟨List.Pairwise.nil, fun _ member => absurd member List.not_mem_nil, fun _ => rfl⟩
  | append_singleton records record induction =>
      obtain ⟨ordered, -, earlier⟩ := List.pairwise_append.mp increasing
      have before : ∀ other ∈ records, other.position < record.position :=
        fun other member => earlier other member record (List.mem_singleton_self record)
      obtain ⟨snapshotsOrdered, recorded, last⟩ := induction ordered
      have latest : latestSubjects (retainedExecutorResponsibilityFrom records) runId =
          retainedSubjects runId records := by
        have all := last record.position
        rw [List.filter_eq_self.mpr fun snapshot member => ?_,
          List.filter_eq_self.mpr fun other member => ?_] at all
        · rw [latestSubjects, PersistentSequence.get_neg_one]
          exact all
        · simpa using Nat.le_of_lt (before other member)
        · obtain ⟨other, listed, same⟩ := recorded snapshot member
          simpa [← same] using Nat.le_of_lt (before other listed)
      rw [retainedExecutorResponsibilityFrom_concat, toList_bucket_append, latest]
      cases applied : (changeWithin runId record).bind
          (applyRetentionChange (retainedSubjects runId records) · record.position) with
      | none =>
          simp only [Option.toList_none, List.map_nil, List.append_nil]
          refine ⟨snapshotsOrdered, fun snapshot member => ?_, fun cutoff => ?_⟩
          · obtain ⟨other, listed, same⟩ := recorded snapshot member
            exact ⟨other, List.mem_append_left _ listed, same⟩
          · rw [last cutoff, List.filter_append]
            by_cases through : (record.position : Int) ≤ cutoff
            · rw [List.filter_cons_of_pos (by simpa using through), List.filter_nil,
                retainedSubjects_concat, filtered_eq_self before through, retainThrough, applied,
                Option.getD_none]
            · rw [List.filter_cons_of_neg (by simpa using through), List.filter_nil,
                List.append_nil]
      | some subjects =>
          simp only [Option.toList_some, List.map_cons, List.map_nil]
          refine ⟨List.pairwise_append.mpr ⟨snapshotsOrdered, List.pairwise_singleton _ _, ?_⟩,
            fun snapshot member => ?_, fun cutoff => ?_⟩
          · intro snapshot member other listed
            obtain ⟨earlier, found, same⟩ := recorded snapshot member
            rw [List.mem_singleton.mp listed, ← same]
            exact before earlier found
          · rcases Log.mem_concat.mp member with member | here
            · obtain ⟨other, listed, same⟩ := recorded snapshot member
              exact ⟨other, List.mem_append_left _ listed, same⟩
            · rw [here]
              exact ⟨record, by simp, rfl⟩
          · rw [List.filter_append, List.filter_append]
            by_cases through : (record.position : Int) ≤ cutoff
            · rw [List.filter_cons_of_pos (by simpa using through), List.filter_nil,
                List.getLast?_concat, List.filter_cons_of_pos (by simpa using through),
                List.filter_nil, retainedSubjects_concat, filtered_eq_self before through,
                retainThrough, applied]
              rfl
            · rw [List.filter_cons_of_neg (by simpa using through), List.filter_nil,
                List.append_nil, List.filter_cons_of_neg (by simpa using through), List.filter_nil,
                List.append_nil, last cutoff]

theorem subjectsThrough_from (increasing : InOrder records)
    (cutoff : Int) :
    subjectsThrough (retainedExecutorResponsibilityFrom records) runId cutoff =
      retainedSubjects runId
        (records.filter fun record => (record.position : Int) ≤ cutoff) := by
  have indexed := @indexesRetained_from runId records increasing
  rw [subjectsThrough, PersistentSequence.lastVisible_eq indexed.increasing]
  exact indexed.last cutoff

theorem mem_retainedExecutorResponsibilitySubjectsAt
    (increasing : InOrder records)
    (keyed : ∀ attemptId subject, (retainedSubjects runId (records.filter fun record =>
      (record.position : Int) ≤ cutoff)).lookup attemptId = some subject →
        subject.plannedAttempt.attemptId = attemptId)
    {subject : RetainedExecutorResponsibilitySubject} :
    subject ∈ retainedExecutorResponsibilitySubjectsAt
        (retainedExecutorResponsibilityFrom records) runId cutoff ↔
      (retainedSubjects runId (records.filter fun record =>
        (record.position : Int) ≤ cutoff)).lookup subject.plannedAttempt.attemptId =
          some subject := by
  rw [retainedExecutorResponsibilitySubjectsAt, List.mem_mergeSort, List.mem_map,
    subjectsThrough_from increasing]
  constructor
  · rintro ⟨⟨attemptId, found⟩, listed, rfl⟩
    have shown := AList.mem_lookup_iff.mpr listed
    rw [keyed attemptId found shown]
    exact shown
  · intro found
    exact ⟨⟨_, subject⟩, AList.mem_lookup_iff.mp found, rfl⟩

end

end Dalph
