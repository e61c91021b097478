import Dalph.WorkflowJournal.SqliteRepresentation

/-!
# Checkpoints of represented Runs

A checkpoint that an append advances equals the checkpoint of a fresh load, and the read view
rebuilt from a checkpoint equals the records it was built from.
-/

namespace Dalph

variable {runId : RunId} {records : List JournalRecord} {record : JournalRecord} {run : StoredRun}

theorem recordsByKeyOf_concat (records : List JournalRecord) (record : JournalRecord) :
    recordsByKeyOf (records ++ [record]) =
      (recordsByKeyOf records).insert record.key ⟨record.event, record.position⟩ := by
  simp [recordsByKeyOf, List.foldl_append]

theorem mem_recordsByKeyOf {key : JournalRecordKey} :
    key ∈ recordsByKeyOf records ↔ ∃ record ∈ records, record.key = key := by
  induction records using List.reverseRecOn with
  | nil => simp [recordsByKeyOf]
  | append_singleton records record induction =>
      rw [recordsByKeyOf_concat, AList.mem_insert, induction]
      constructor
      · rintro (rfl | ⟨earlier, listed, same⟩)
        · exact ⟨record, by simp, rfl⟩
        · exact ⟨earlier, by simp [listed], same⟩
      · rintro ⟨earlier, listed, rfl⟩
        rcases Log.mem_concat.mp listed with before | last
        · exact .inr ⟨earlier, before, rfl⟩
        · exact .inl (by rw [last])

theorem lookup_recordsByKeyOf (distinct : (records.map (·.key)).Nodup) (key : JournalRecordKey) :
    (recordsByKeyOf records).lookup key =
      (records.find? (·.key = key)).map fun record => ⟨record.event, record.position⟩ := by
  induction records using List.reverseRecOn with
  | nil => rfl
  | append_singleton records record induction =>
      rw [List.map_append, List.nodup_append] at distinct
      rw [recordsByKeyOf_concat, List.find?_append]
      rcases eq_or_ne record.key key with rfl | differs
      · have absent : records.find? (·.key = record.key) = none := by
          rw [List.find?_eq_none]
          intro earlier listed same
          exact distinct.2.2 earlier.key (List.mem_map_of_mem listed) record.key (by simp)
            (by simpa using same)
        rw [AList.lookup_insert, absent]
        simp
      · rw [AList.lookup_insert_ne differs.symm, induction distinct.1]
        simp [differs]

theorem entries_recordsByKeyOf (distinct : (records.map (·.key)).Nodup) :
    (recordsByKeyOf records).entries =
      (records.map fun record =>
        (⟨record.key, ⟨record.event, record.position⟩⟩ :
          Σ _ : JournalRecordKey, SqliteStorageRecordEvidence)).reverse := by
  induction records using List.reverseRecOn with
  | nil => rfl
  | append_singleton records record induction =>
      rw [List.map_append, List.nodup_append] at distinct
      have absent : record.key ∉ recordsByKeyOf records := by
        rw [mem_recordsByKeyOf]
        rintro ⟨earlier, listed, same⟩
        exact distinct.2.2 earlier.key (List.mem_map_of_mem listed) record.key (by simp) same
      rw [recordsByKeyOf_concat, AList.entries_insert_of_notMem absent, induction distinct.1]
      simp

theorem mergeSort_position_of_perm (sequence : RecordSequence runId records)
    {shuffled : List JournalRecord} (same : shuffled.Perm records) :
    (shuffled.mergeSort fun left right => left.position ≤ right.position) = records := by
  have distinct : (records.map (·.position)).Nodup := by
    rw [sequence.positions]
    exact List.nodup_range'
  refine List.Perm.eq_of_pairwise ?_ (List.pairwise_mergeSort ?_ ?_ shuffled)
    (sequence.sorted.imp fun before => decide_eq_true (Nat.le_of_lt before))
    ((List.mergeSort_perm _ _).trans same)
  · intro left right leftListed rightListed before after
    have leftMember : left ∈ records :=
      same.subset ((List.mergeSort_perm _ _).subset leftListed)
    refine List.inj_on_of_nodup_map distinct leftMember rightListed ?_
    exact Nat.le_antisymm (of_decide_eq_true before) (of_decide_eq_true after)
  · intro left middle right before after
    exact decide_eq_true (Nat.le_trans (of_decide_eq_true before) (of_decide_eq_true after))
  · intro left right
    simpa using Nat.le_total left.position right.position

theorem snapshotFromSqliteStorageCheckpoint_eq (sequence : RecordSequence runId run.records) :
    snapshotFromSqliteStorageCheckpoint (snapshotOf runId run).checkpoint = snapshotOf runId run := by
  have restored : ((recordsByKeyOf run.records).entries.map fun entry =>
      { event := entry.2.event
        key := entry.1
        position := entry.2.position
        runId : JournalRecord }) = run.records.reverse := by
    rw [entries_recordsByKeyOf sequence.distinctKeys, List.map_reverse, List.map_map]
    congr 1
    refine (List.map_congr_left ?_).trans (List.map_id _)
    intro record listed
    simp [← sequence.owned record listed]
  have ordered : (run.records.reverse.mergeSort
      fun left right => left.position ≤ right.position) = run.records :=
    mergeSort_position_of_perm sequence (List.reverse_perm _)
  simp only [snapshotFromSqliteStorageCheckpoint, snapshotOf, evidenceOf, restored, ordered]

theorem appendSqliteStorageCheckpoint_eq (notCold : run.cold = none)
    (ordinary : record.event.isRunTerminated = false) :
    appendSqliteStorageCheckpoint (snapshotOf runId run).checkpoint record =
      (snapshotOf runId { run with hot := some (run.records ++ [record]) }).checkpoint := by
  have grown : StoredRun.records { run with hot := some (run.records ++ [record]) } =
      run.records ++ [record] := rfl
  simp only [appendSqliteStorageCheckpoint, snapshotOf, evidenceOf, grown, recordsByKeyOf_concat]
  simp [StoredRun.partition, notCold, ordinary]

end Dalph
