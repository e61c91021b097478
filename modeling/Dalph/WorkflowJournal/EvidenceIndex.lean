import Dalph.Foundation.TextKey
import Dalph.WorkflowJournal.RecordEvidence

/-!
# What the indexes hold

Each sequence of an index lists, in order, the records that satisfy a test.  A window shows a
beginning of the records, and a query on it selects from what it shows.
-/

namespace Dalph

open PersistentSequence (Increasing)

abbrev InOrder (records : List JournalRecord) : Prop := Increasing JournalRecord.position records

/-- Positions increase, starting at one or later. -/
structure Chronological (records : List JournalRecord) : Prop where
  increasing : Increasing JournalRecord.position records
  positive : ∀ record ∈ records, 1 ≤ record.position

def earlierThan (records : List JournalRecord) (record : JournalRecord) : List JournalRecord :=
  records.filter fun earlier => earlier.position < record.position

/-- The attempt that a worktree outcome answers for: the latest earlier operation under its identity
must be a worktree read in its Run. -/
def answeredAttempt? (earlier : List JournalRecord) (record : JournalRecord) : Option AttemptId := do
  let operationId ← worktreeOutcomeOperationId? record
  let operation ← journalOperationById operationId (.raw earlier)
  worktreeReadAttempt? operation record.runId

def linkedToAttempt (records : List JournalRecord) (record : JournalRecord) (attemptId : AttemptId) :
    Bool :=
  attemptId ∈ (attemptIdsOf record).add? (answeredAttempt? (earlierThan records record) record)

def reconfirmedRecord? (earlier : List JournalRecord) (record : JournalRecord) :
    Option JournalRecord := do
  let operationId ← priorFullObservationOperationId? record
  earlier.find? fun prior => prior.key = outcomeRecordKey operationId

def linkedToTask (records : List JournalRecord) (record : JournalRecord) (taskId : TaskId) : Bool :=
  taskId ∈ taskIdsOf record none ||
    (reconfirmedRecord? (earlierThan records record) record).any fun prior =>
      taskId ∈ completeTaskIds prior

section Extension

variable {records : List JournalRecord} {record : JournalRecord}
  (later : ∀ earlier ∈ records, earlier.position < record.position)

include later

theorem earlierThan_append {other : JournalRecord} (member : other ∈ records) :
    earlierThan (records ++ [record]) other = earlierThan records other := by
  have behind : ¬ record.position < other.position := Nat.lt_asymm (later other member)
  simp [earlierThan, behind]

theorem earlierThan_append_self : earlierThan (records ++ [record]) record = records := by
  have kept : (records.filter fun earlier => decide (earlier.position < record.position)) = records :=
    List.filter_eq_self.mpr fun earlier member => decide_eq_true (later earlier member)
  simp [earlierThan, kept]

omit later in
theorem filter_append_of_lookback {test test' : JournalRecord → Bool}
    (stable : ∀ earlier ∈ records, test' earlier = test earlier) :
    (records ++ [record]).filter test' =
      records.filter test ++ if test' record then [record] else [] := by
  rw [List.filter_append, List.filter_congr stable]
  congr 1
  simp [List.filter_singleton]

end Extension

section Sequences

variable {Key : Type} [DecidableEq Key] {records : List JournalRecord} {record : JournalRecord}
  {keys : List Key} {key : Key} {test test' : JournalRecord → Bool}

theorem lists_pushAll {index : SequenceIndex Key JournalRecord} (distinct : keys.Nodup)
    (lists : (index.bucket key).toList = records.filter test)
    (stable : ∀ earlier ∈ records, test' earlier = test earlier)
    (concerned : key ∈ keys ↔ test' record = true) :
    ((index.pushAll keys record).bucket key).toList = (records ++ [record]).filter test' := by
  rw [SequenceIndex.toList_bucket_pushAll distinct, lists, filter_append_of_lookback stable]
  simp only [concerned]

theorem lists_pushAll_option {index : SequenceIndex Key JournalRecord} {only : Option Key}
    (lists : (index.bucket key).toList = records.filter test)
    (concerned : only = some key ↔ test record = true) :
    ((index.pushAll only.toList record).bucket key).toList = (records ++ [record]).filter test := by
  refine lists_pushAll ?_ lists (fun _ _ => rfl) (Option.mem_toList.trans concerned)
  cases only <;> simp

theorem lists_pushAll_kind {index : KindIndex Key WorkflowJournalEventTag JournalRecord}
    {kind : WorkflowJournalEventTag} (distinct : keys.Nodup)
    (lists : (index.bucket key kind).toList =
      records.filter fun record => record.event.tag = kind && test record)
    (stable : ∀ earlier ∈ records, test' earlier = test earlier)
    (concerned : key ∈ keys ↔ test' record = true) :
    ((index.pushAll keys record.event.tag record).bucket key kind).toList =
      (records ++ [record]).filter fun record => record.event.tag = kind && test' record := by
  have kept : ∀ earlier ∈ records, (decide (earlier.event.tag = kind) && test' earlier) =
      (decide (earlier.event.tag = kind) && test earlier) := fun earlier member => by
    rw [stable earlier member]
  rw [KindIndex.toList_bucket_pushAll distinct, lists, filter_append_of_lookback kept]
  congr 1
  refine if_congr ?_ rfl rfl
  rw [concerned, Bool.and_eq_true, decide_eq_true_iff, and_comm, @eq_comm _ kind]

end Sequences

theorem commandKey_inj {attemptId other : AttemptId} {ordinal ordinal' : Nat} :
    commandKey attemptId ordinal = commandKey other ordinal' ↔
      attemptId = other ∧ ordinal = ordinal' := by
  rw [commandKey, commandKey, TextKey.colon_number_inj, ← AttemptId.mk.injEq]

theorem quarantineDirectionRequestKey_inj {request other : String × String} :
    quarantineDirectionRequestKey request = quarantineDirectionRequestKey other ↔
      request = other := by
  refine ⟨fun same => ?_, fun same => by rw [same]⟩
  obtain ⟨heavy, texts⟩ := TextKey.number_colon_inj.mp same
  have texts := congrArg String.toList texts
  rw [String.toList_append, String.toList_append] at texts
  obtain ⟨runs, nonces⟩ := TextKey.append_inj_of_sum (fun char => by split <;> decide) texts heavy
  exact Prod.ext (String.toList_inj.mp runs) (String.toList_inj.mp nonces)

theorem nodup_indexedCommandKeys {attemptIds : List AttemptId} (distinct : attemptIds.Nodup)
    (record : JournalRecord) : (indexedCommandKeys attemptIds record).Nodup := by
  unfold indexedCommandKeys
  split
  · exact distinct.map fun _ _ same => (commandKey_inj.mp same).1
  · exact List.nodup_nil

theorem mem_indexedCommandKeys {attemptIds : List AttemptId} {record : JournalRecord}
    {attemptId : AttemptId} {commandOrdinal : Nat} :
    commandKey attemptId commandOrdinal ∈ indexedCommandKeys attemptIds record ↔
      commandOrdinal? record = some commandOrdinal ∧ attemptId ∈ attemptIds := by
  unfold indexedCommandKeys
  cases commandOrdinal? record with
  | none => simp
  | some ordinal =>
      simp only [List.mem_map, commandKey_inj, Option.some.injEq]
      constructor
      · rintro ⟨attemptId, member, rfl, rfl⟩
        exact ⟨rfl, member⟩
      · rintro ⟨rfl, member⟩
        exact ⟨attemptId, member, rfl, rfl⟩

/-- The indexes list the given records. -/
structure ListsRecords (indexes : EvidenceIndexes) (records : List JournalRecord) : Prop where
  ordinals : indexes.positionsAreOrdinals = true →
    ∀ index (inside : index < records.length), records[index].position = index + 1
  byKey : ∀ key, indexes.byKey.lookup key = records.find? fun record => record.key = key
  byKind : ∀ kind, (indexes.byKind.bucket kind).toList =
    records.filter fun record => record.event.tag = kind
  byAttempt : ∀ attemptId, (indexes.byAttempt.bucket attemptId).toList =
    records.filter fun record => linkedToAttempt records record attemptId
  byAttemptKind : ∀ attemptId kind, (indexes.byAttemptKind.bucket attemptId kind).toList =
    records.filter fun record => record.event.tag = kind && linkedToAttempt records record attemptId
  byAttemptCommandKind : ∀ attemptId commandOrdinal kind,
    (indexes.byAttemptCommandKind.bucket (commandKey attemptId commandOrdinal) kind).toList =
      records.filter fun record => record.event.tag = kind &&
        commandOrdinal? record = some commandOrdinal && attemptId ∈ attemptIdsOf record
  byTask : ∀ taskId, (indexes.byTask.bucket taskId).toList =
    records.filter fun record => linkedToTask records record taskId
  byTaskKind : ∀ taskId kind, (indexes.byTaskKind.bucket taskId kind).toList =
    records.filter fun record => record.event.tag = kind && linkedToTask records record taskId
  operations : ∀ operationId, (indexes.operations.bucket operationId).toList =
    records.filter fun record => initiatesOperation record operationId
  recordsByOperation : ∀ operationId, (indexes.recordsByOperation.bucket operationId).toList =
    records.filter fun record => operationId ∈ operationIdsOf record
  recordsByOperationKind : ∀ operationId kind,
    (indexes.recordsByOperationKind.bucket operationId kind).toList =
      records.filter fun record => record.event.tag = kind && operationId ∈ operationIdsOf record
  byPromotionRequest : ∀ requestId, (indexes.byPromotionRequest.bucket requestId).toList =
    records.filter fun record => promotionRequestIdOf record = some requestId
  byIntegratorSession : ∀ sessionId, (indexes.byIntegratorSession.bucket sessionId).toList =
    records.filter fun record => sessionId ∈ integratorSessionIdsOf record
  byQuarantineDirectionRequest : ∀ request,
    (indexes.byQuarantineDirectionRequest.bucket (quarantineDirectionRequestKey request)).toList =
      records.filter fun record => quarantineDirectionRequest? record = some request

theorem listsRecords_empty : ListsRecords emptyJournalEvidence.indexes [] where
  ordinals _ index inside := absurd inside (Nat.not_lt_zero index)
  byKey _ := rfl
  byKind _ := rfl
  byAttempt _ := rfl
  byAttemptKind _ _ := rfl
  byAttemptCommandKind _ _ _ := rfl
  byTask _ := rfl
  byTaskKind _ _ := rfl
  operations _ := rfl
  recordsByOperation _ := rfl
  recordsByOperationKind _ _ := rfl
  byPromotionRequest _ := rfl
  byIntegratorSession _ := rfl
  byQuarantineDirectionRequest _ := rfl

/-- The source shows a beginning of the records that its indexes list. -/
structure Shows (source : JournalRecordEvidence) (records shown : List JournalRecord) : Prop where
  indexed : ListsRecords source.indexes records
  toList : source.records.toList = shown
  window : shown = records.filter fun record => record.position ≤ source.throughPosition
  last : source.lastPosition = shown.getLast?.map (·.position)

variable {records : List JournalRecord}

theorem position_le_of_getLast? (increasing : InOrder records)
    {last : JournalRecord} (found : records.getLast? = some last) {record : JournalRecord}
    (member : record ∈ records) : record.position ≤ last.position := by
  obtain ⟨rest, rfl⟩ := List.getLast?_eq_some_iff.mp found
  obtain earlier | same := Log.mem_concat.mp member
  · exact Nat.le_of_lt ((List.pairwise_append.mp increasing).2.2 record earlier last (by simp))
  · rw [same]

namespace Shows

variable {source : JournalRecordEvidence} {records shown : List JournalRecord}
  {bucket : PersistentSequence JournalRecord} {test : JournalRecord → Bool}

theorem filter_through (shows : Shows source records shown)
    (lists : bucket.toList = records.filter test) :
    (bucket.toList.filter fun record =>
      decide ((record.position : Int) ≤ source.throughPosition)) = shown.filter test := by
  rw [lists, shows.window, List.filter_filter, List.filter_filter]
  simp only [Int.ofNat_le, Bool.and_comm]

theorem increasing_bucket (increasing : InOrder records)
    (lists : bucket.toList = records.filter test) :
    InOrder bucket.toList := by
  rw [lists]
  exact increasing.sublist List.filter_sublist

section

variable (shows : Shows source records shown)
  (increasing : InOrder records)
include shows increasing

section

variable (lists : bucket.toList = records.filter test)
include lists

theorem indexedRecords_eq : indexedRecords source bucket = shown.filter test := by
  rw [← shows.filter_through lists]
  exact (increasing_bucket increasing lists).takeWhile_eq_filter source.throughPosition

theorem visibleRecordCount_eq : visibleRecordCount source bucket = (shown.filter test).length := by
  rw [← shows.filter_through lists]
  exact PersistentSequence.countThrough_eq (increasing_bucket increasing lists) _

theorem lastVisibleRecord_eq : lastVisibleRecord source bucket = (shown.filter test).getLast? := by
  have ordered := increasing_bucket increasing lists
  have selected := shows.filter_through lists
  unfold lastVisibleRecord
  simp only [PersistentSequence.get_length_sub_one]
  split
  · next whole =>
      -- the sequence ends within the window, so the window shows all of it
      rw [← selected, List.filter_eq_self.mpr]
      intro record member
      obtain ⟨last, found⟩ := Option.isSome_iff_exists.mp
        (List.getLast?_isSome.mpr (List.ne_nil_of_mem member))
      rw [found, Option.all_some, decide_eq_true_iff] at whole
      have through := Nat.le_trans (position_le_of_getLast? ordered found member) whole
      exact decide_eq_true (Int.ofNat_le.mpr through)
  · have count := PersistentSequence.countThrough_eq ordered source.throughPosition
    have taken := PersistentSequence.take_countThrough ordered source.throughPosition
    rw [selected] at count taken
    rw [visibleRecordCount, recordCountThroughPosition, count]
    rw [count] at taken
    split
    · next none => rw [List.length_eq_zero_iff.mp none, List.getLast?_nil]
    · next some =>
        have entry := congrArg (fun items => items[(shown.filter test).length - 1]?) taken
        rw [List.getElem?_take_of_lt (by omega)] at entry
        rw [List.getLast?_eq_getElem?, ← Nat.cast_pred (Nat.pos_of_ne_zero some),
          PersistentSequence.get_natCast, entry]

end

theorem visible_head? : visible source (records.filter test).head? = (shown.filter test).head? := by
  have ordered : InOrder (records.filter test) :=
    increasing.sublist List.filter_sublist
  have cut := ordered.takeWhile_eq_filter source.throughPosition
  rw [shows.window, List.filter_comm, visible]
  simp only [Int.ofNat_le] at cut
  rw [← cut, List.head?_takeWhile]

theorem visible_first (lists : bucket.toList = records.filter test) :
    visible source (bucket.get 0) = (shown.filter test).head? := by
  have first := @PersistentSequence.get_natCast _ bucket 0
  rw [Nat.cast_zero, ← List.head?_eq_getElem?, lists] at first
  rw [first, shows.visible_head? increasing]

theorem visible_byKey (key : JournalRecordKey) :
    visible source (source.indexes.byKey.lookup key) =
      shown.find? fun record => record.key = key := by
  rw [shows.indexed.byKey, ← List.head?_filter, ← List.head?_filter, shows.visible_head? increasing]

end

end Shows

namespace Shows

variable {source : JournalRecordEvidence} {records : List JournalRecord} {record : JournalRecord}

theorem before_eq (shows : Shows source records records)
    (later : ∀ earlier ∈ records, earlier.position < record.position) :
    journalEvidenceBefore source record.position = source := by
  unfold journalEvidenceBefore
  cases last : source.lastPosition with
  | none => rfl
  | some position =>
      rw [shows.last, Option.map_eq_some_iff] at last
      obtain ⟨final, found, rfl⟩ := last
      have behind := later final (List.mem_of_getLast? found)
      simp only [Int.ofNat_lt.mpr behind, if_true]

theorem journalOperationById_raw (records : List JournalRecord) (operationId : OperationId) :
    journalOperationById operationId (.raw records) =
      (records.filter fun record => initiatesOperation record operationId).getLast?.bind
        operationOf := by
  rw [List.getLast?_filter, journalOperationById, findLast, ← List.map_reverse, List.find?_map]
  change (Option.map operationOf (records.reverse.find? fun record =>
    initiatesOperation record operationId)).join = _
  cases records.reverse.find? fun record => initiatesOperation record operationId <;> rfl

section

variable (shows : Shows source records records)
  (increasing : InOrder records)
include shows increasing

theorem indexedOperationById_eq (operationId : OperationId) :
    indexedOperationById source operationId = journalOperationById operationId (.raw records) := by
  rw [indexedOperationById, shows.lastVisibleRecord_eq increasing
    (shows.indexed.operations operationId), journalOperationById_raw]

theorem indexedAttemptIds_eq (later : ∀ earlier ∈ records, earlier.position < record.position) :
    indexedAttemptIds source record = (attemptIdsOf record).add? (answeredAttempt? records record) := by
  unfold indexedAttemptIds answeredAttempt?
  simp only [shows.before_eq later, shows.indexedOperationById_eq increasing]

theorem mem_indexedAttemptIds (later : ∀ earlier ∈ records, earlier.position < record.position)
    (attemptId : AttemptId) :
    attemptId ∈ (indexedAttemptIds source record).items ↔
      linkedToAttempt (records ++ [record]) record attemptId = true := by
  rw [linkedToAttempt, earlierThan_append_self later, shows.indexedAttemptIds_eq increasing later,
    decide_eq_true_iff]
  exact Iff.rfl

end

omit source records in
theorem mem_graphObservationTaskIds (indexes : EvidenceIndexes) (taskId : TaskId) :
    taskId ∈ graphObservationTaskIds record (some indexes) ↔
      taskId ∈ graphObservationTaskIds record none ∨ taskId ∈ priorTaskIds record (some indexes) := by
  have unlinked : priorTaskIds record none = [] := by
    unfold priorTaskIds
    cases priorFullObservationOperationId? record <;> rfl
  unfold graphObservationTaskIds
  split
  · next facts recorded =>
      have absent : priorFullObservationOperationId? record = none := by
        simp [priorFullObservationOperationId?, recorded]
      simp [priorTaskIds, absent]
  · next facts recorded =>
      rw [unlinked, List.nil_append, List.mem_append, or_comm]
  · next other =>
      have absent : priorFullObservationOperationId? record = none := by
        unfold priorFullObservationOperationId?
        split
        · next facts recorded => exact absurd recorded (other facts)
        · rfl
      simp [priorTaskIds, absent]

theorem mem_indexedTaskIds (shows : Shows source records records)
    (later : ∀ earlier ∈ records, earlier.position < record.position) (taskId : TaskId) :
    taskId ∈ (taskIdsOf record (some source.indexes)).items ↔
      linkedToTask (records ++ [record]) record taskId = true := by
  have linked : taskId ∈ priorTaskIds record (some source.indexes) ↔
      (reconfirmedRecord? records record).any (fun prior => taskId ∈ completeTaskIds prior) = true := by
    unfold priorTaskIds reconfirmedRecord?
    cases priorFullObservationOperationId? record with
    | none => simp
    | some operationId =>
        simp only [Option.bind_eq_bind, Option.bind_some, shows.indexed.byKey]
        cases records.find? fun prior => decide (prior.key = outcomeRecordKey operationId) <;> simp
  rw [linkedToTask, earlierThan_append_self later, Bool.or_eq_true, decide_eq_true_iff]
  show taskId ∈ taskIdsOf record (some source.indexes) ↔ _
  rw [taskIdsOf, taskIdsOf, KeySet.mem_addAll, KeySet.mem_addAll, mem_graphObservationTaskIds, linked]
  tauto

theorem answeredAttempt?_of_command {earlier : List JournalRecord} {commandOrdinal : Nat}
    (commanded : commandOrdinal? record = some commandOrdinal) :
    answeredAttempt? earlier record = none := by
  have noOutcome : worktreeOutcomeOperationId? record = none := by
    unfold worktreeOutcomeOperationId?
    unfold commandOrdinal? at commanded
    split
    · next recorded => simp [recorded] at commanded
    · rfl
  simp [answeredAttempt?, noOutcome]

theorem listsRecords_append (shows : Shows source records records)
    (increasing : InOrder records)
    (later : ∀ earlier ∈ records, earlier.position < record.position) :
    ListsRecords (appendJournalEvidence source record).indexes (records ++ [record]) := by
  have attemptStable : ∀ attemptId, ∀ earlier ∈ records,
      linkedToAttempt (records ++ [record]) earlier attemptId =
        linkedToAttempt records earlier attemptId := fun attemptId earlier member => by
    rw [linkedToAttempt, linkedToAttempt, earlierThan_append later member]
  have taskStable : ∀ taskId, ∀ earlier ∈ records,
      linkedToTask (records ++ [record]) earlier taskId = linkedToTask records earlier taskId :=
    fun taskId earlier member => by
      rw [linkedToTask, linkedToTask, earlierThan_append later member]
  have attempts := shows.mem_indexedAttemptIds increasing later
  have tasks := shows.mem_indexedTaskIds later
  have distinctAttempts := (indexedAttemptIds source record).nodup
  have distinctTasks := (taskIdsOf record (some source.indexes)).nodup
  have distinctOperations := (operationIdsOf record).nodup
  refine
    { ordinals := ?_
      byKey := ?_
      byKind := ?_
      byAttempt := fun attemptId => lists_pushAll distinctAttempts
        (shows.indexed.byAttempt attemptId) (attemptStable attemptId) (attempts attemptId)
      byAttemptKind := fun attemptId kind => lists_pushAll_kind distinctAttempts
        (shows.indexed.byAttemptKind attemptId kind) (attemptStable attemptId) (attempts attemptId)
      byAttemptCommandKind := ?_
      byTask := fun taskId => lists_pushAll distinctTasks (shows.indexed.byTask taskId)
        (taskStable taskId) (tasks taskId)
      byTaskKind := fun taskId kind => lists_pushAll_kind distinctTasks
        (shows.indexed.byTaskKind taskId kind) (taskStable taskId) (tasks taskId)
      operations := ?_
      recordsByOperation := fun operationId => lists_pushAll distinctOperations
        (shows.indexed.recordsByOperation operationId) (fun _ _ => rfl) ?_
      recordsByOperationKind := fun operationId kind => lists_pushAll_kind distinctOperations
        (shows.indexed.recordsByOperationKind operationId kind) (fun _ _ => rfl) ?_
      byPromotionRequest := ?_
      byIntegratorSession := fun sessionId => lists_pushAll (integratorSessionIdsOf record).nodup
        (shows.indexed.byIntegratorSession sessionId) (fun _ _ => rfl) ?_
      byQuarantineDirectionRequest := ?_ }
  · -- positions stay ordinals only while each appended one is the next ordinal
    intro ordinal index inside
    obtain ⟨before, next⟩ := Bool.and_eq_true_iff.mp ordinal
    have length : source.records.length = records.length := by
      rw [← shows.toList, PersistentSequence.length_toList]
    rw [List.length_append, List.length_singleton] at inside
    obtain earlier | rfl := Nat.lt_succ_iff_lt_or_eq.mp inside
    · rw [List.getElem_append_left earlier]
      exact shows.indexed.ordinals before index earlier
    · rw [List.getElem_concat_length rfl, ← length]
      exact decide_eq_true_iff.mp next
  · -- the first record under a key keeps it
    intro key
    rw [List.find?_append, ← shows.indexed.byKey key]
    simp only [appendJournalEvidence]
    split
    · next taken =>
        by_cases same : record.key = key
        · subst same
          obtain ⟨first, found⟩ := Option.isSome_iff_exists.mp taken
          rw [found, Option.some_or]
        · simp [same]
    · next free =>
        rw [KeyedMap.lookup_set]
        by_cases same : key = record.key
        · subst same
          simp only [Option.not_isSome_iff_eq_none] at free
          simp [free]
        · have apart : record.key ≠ key := fun equal => same equal.symm
          simp [same, apart]
  · intro kind
    refine lists_pushAll (List.nodup_singleton record.event.tag) (shows.indexed.byKind kind)
      (fun _ _ => rfl) ?_
    rw [List.mem_singleton, decide_eq_true_iff, eq_comm]
  · intro attemptId commandOrdinal kind
    have named : attemptId ∈ (indexedAttemptIds source record).items ∧
        commandOrdinal? record = some commandOrdinal ↔
          commandOrdinal? record = some commandOrdinal ∧ attemptId ∈ attemptIdsOf record := by
      rw [shows.indexedAttemptIds_eq increasing later, and_comm, and_congr_right_iff]
      intro commanded
      rw [answeredAttempt?_of_command commanded]
      exact Iff.rfl
    have lists := shows.indexed.byAttemptCommandKind attemptId commandOrdinal kind
    simp only [Bool.and_assoc] at lists ⊢
    refine lists_pushAll_kind (nodup_indexedCommandKeys distinctAttempts record) lists
      (fun _ _ => rfl) ?_
    rw [mem_indexedCommandKeys, and_comm, named, Bool.and_eq_true, decide_eq_true_iff,
      decide_eq_true_iff]
  · intro operationId
    refine lists_pushAll_option (shows.indexed.operations operationId) ?_
    cases operation : operationOf record <;> simp [initiatesOperation, operation]
  · exact decide_eq_true_iff.symm
  · exact decide_eq_true_iff.symm
  · intro requestId
    exact lists_pushAll_option (shows.indexed.byPromotionRequest requestId) decide_eq_true_iff.symm
  · exact decide_eq_true_iff.symm
  · intro request
    refine lists_pushAll_option (shows.indexed.byQuarantineDirectionRequest request) ?_
    rw [decide_eq_true_iff, Option.map_eq_some_iff]
    simp only [quarantineDirectionRequestKey_inj, exists_eq_right]

theorem append (shows : Shows source records records)
    (increasing : InOrder records)
    (later : ∀ earlier ∈ records, earlier.position < record.position) :
    Shows (appendJournalEvidence source record) (records ++ [record]) (records ++ [record]) where
  indexed := shows.listsRecords_append increasing later
  toList := by
    rw [← shows.toList]
    exact PersistentSequence.toList_append record
  window := by
    refine (List.filter_eq_self.mpr fun other member => decide_eq_true ?_).symm
    obtain earlier | same := Log.mem_concat.mp member
    · exact Nat.le_of_lt (later other earlier)
    · rw [same]
      exact Nat.le_refl record.position
  last := by simp [appendJournalEvidence]

end Shows

theorem shows_journalEvidenceFrom (increasing : InOrder records) :
    Shows (journalEvidenceFrom records) records records := by
  induction records using List.reverseRecOn with
  | nil => exact ⟨listsRecords_empty, rfl, rfl, rfl⟩
  | append_singleton records record induction =>
      obtain ⟨earlier, -, later⟩ := List.pairwise_append.mp increasing
      have step := (induction earlier).append earlier fun other member =>
        later other member record (by simp)
      rw [journalEvidenceFrom, List.foldl_append]
      exact step

theorem filter_eq_filter_through (chronological : Chronological records)
    {test : JournalRecord → Bool}
    (closed : ∀ record ∈ records, ∀ other ∈ records, record.position ≤ other.position →
      test other = true → test record = true) :
    records.filter test = records.filter fun record =>
      record.position ≤ ((records.filter test).getLast?.map (·.position)).getD 0 := by
  apply List.filter_congr
  intro record member
  rw [Bool.eq_iff_iff, decide_eq_true_iff]
  have increasing : InOrder (records.filter test) :=
    chronological.increasing.sublist List.filter_sublist
  constructor
  · intro passes
    have kept := List.mem_filter.mpr ⟨member, passes⟩
    obtain ⟨last, found⟩ := Option.isSome_iff_exists.mp
      (List.getLast?_isSome.mpr (List.ne_nil_of_mem kept))
    rw [found]
    exact position_le_of_getLast? increasing found kept
  · intro through
    cases found : (records.filter test).getLast? with
    | none =>
        rw [found] at through
        have positive := chronological.positive record member
        exact absurd (Nat.le_trans positive through) (by decide)
    | some last =>
        rw [found] at through
        obtain ⟨inside, passes⟩ := List.mem_filter.mp (List.mem_of_getLast? found)
        exact closed record member last inside through passes

namespace Shows

variable {source : JournalRecordEvidence} {records shown : List JournalRecord}

section

variable (shows : Shows source records shown) (all : Chronological records)
include shows all

theorem chronological : Chronological shown := by
  rw [shows.window]
  exact ⟨all.increasing.sublist List.filter_sublist,
    fun record member => all.positive record (List.mem_of_mem_filter member)⟩

theorem ordinals (ordinal : source.indexes.positionsAreOrdinals = true) (index : Nat)
    (inside : index < shown.length) : shown[index].position = index + 1 := by
  have cut : shown = records.takeWhile fun record =>
      decide ((record.position : Int) ≤ source.throughPosition) := by
    rw [all.increasing.takeWhile_eq_filter, shows.window]
    simp only [Int.ofNat_le]
  obtain ⟨rest, whole⟩ := List.takeWhile_prefix (p := fun record : JournalRecord =>
    decide ((record.position : Int) ≤ source.throughPosition)) (l := records)
  rw [← cut] at whole
  have within : index < records.length := by
    rw [← whole, List.length_append]
    omega
  have kept := shows.indexed.ordinals ordinal index within
  simp only [← whole, List.getElem_append_left inside] at kept
  exact kept

theorem take_windowLength {cutoff : Int} {last : JournalPosition}
    (ends : source.lastPosition = some last) (inside : cutoff ≤ last) :
    shown.take (windowLength source cutoff).toNat =
      shown.filter fun record => (record.position : Int) < cutoff := by
  have strict : ∀ record : JournalRecord, decide ((record.position : Int) ≤ cutoff - 1) =
      decide ((record.position : Int) < cutoff) := fun record => by
    simp only [Int.le_sub_one_iff]
  simp only [← strict]
  unfold windowLength
  split
  · next ordinal =>
      -- the ordinals themselves separate the records before the end from the others
      have position := shows.ordinals all ordinal
      obtain ⟨final, found, rfl⟩ := Option.map_eq_some_iff.mp (shows.last ▸ ends)
      have occupied : 0 < shown.length := List.length_pos_of_mem (List.mem_of_getLast? found)
      have length : final.position = shown.length := by
        rw [List.getLast?_eq_getElem?, List.getElem?_eq_getElem (by omega)] at found
        have := position (shown.length - 1) (by omega)
        rw [Option.some.inj found] at this
        exact this.trans (Nat.sub_add_cancel occupied)
      have reach : cutoff ≤ (shown.length : Int) := by
        rw [← length]
        exact inside
      apply PersistentSequence.Brackets.take_eq_filter
      refine ⟨Nat.le_refl _, by omega, fun index within before => ?_, fun index within after => ?_⟩
      · rw [position index within]
        omega
      · rw [position index within]
        omega
  · have increasing := (shows.chronological all).increasing
    rw [Int.toNat_natCast, recordCountThroughPosition, ← shows.toList]
    exact PersistentSequence.take_countThrough (shows.toList ▸ increasing) (cutoff - 1)

theorem before (cutoff : Int) :
    Shows (journalEvidenceBefore source cutoff) records
      (shown.filter fun record => (record.position : Int) < cutoff) := by
  have unchanged : (∀ record ∈ shown, (record.position : Int) < cutoff) →
      (shown.filter fun record => decide ((record.position : Int) < cutoff)) = shown := fun before =>
    List.filter_eq_self.mpr fun record member => decide_eq_true (before record member)
  unfold journalEvidenceBefore
  cases ends : source.lastPosition with
  | none =>
      have nothing : shown = [] := by
        simpa [shows.last] using ends
      rw [unchanged (by simp [nothing])]
      exact shows
  | some last =>
      simp only
      split
      · next behind =>
          obtain ⟨final, found, rfl⟩ := Option.map_eq_some_iff.mp (shows.last ▸ ends)
          rw [unchanged fun record member => ?_]
          · exact shows
          · have := position_le_of_getLast? (shows.chronological all).increasing found member
            exact Int.lt_of_le_of_lt (Int.ofNat_le.mpr this) behind
      · next inside =>
          have cut := shows.take_windowLength all ends (Int.not_lt.mp inside)
          have toList : (source.records.before (windowLength source cutoff)).toList =
              shown.filter fun record => (record.position : Int) < cutoff := by
            rw [PersistentSequence.toList_before, shows.toList, cut]
          have last : ((source.records.before (windowLength source cutoff)).get (-1)).map
                JournalRecord.position =
              (shown.filter fun record => (record.position : Int) < cutoff).getLast?.map
                JournalRecord.position := by
            rw [PersistentSequence.get_neg_one, toList]
          refine ⟨shows.indexed, toList, ?_, last⟩
          have both : (shown.filter fun record => decide ((record.position : Int) < cutoff)) =
              records.filter fun record => decide ((record.position : Int) < cutoff) &&
                decide (record.position ≤ source.throughPosition) := by
            conv_lhs => rw [shows.window]
            rw [List.filter_filter]
          simp only [JournalRecordEvidence.throughPosition, last]
          rw [both]
          apply filter_eq_filter_through all
          intro record _ other _ through passes
          simp only [Bool.and_eq_true, decide_eq_true_iff] at passes ⊢
          exact ⟨Int.lt_of_le_of_lt (Int.ofNat_le.mpr through) passes.1,
            Nat.le_trans through passes.2⟩

theorem brackets_ordinals (ordinal : source.indexes.positionsAreOrdinals = true) (after : Nat) :
    PersistentSequence.Brackets JournalRecord.position shown after (min after shown.length)
      (min after shown.length) := by
  have position := shows.ordinals all ordinal
  refine ⟨Nat.le_refl _, Nat.min_le_right _ _, fun index inside before => ?_,
    fun index inside behind => ?_⟩
  · rw [position index inside]
    omega
  · rw [position index inside]
    omega

theorem brackets_count (cutoff : Int) :
    PersistentSequence.Brackets JournalRecord.position shown cutoff
      (recordCountThroughPosition source.records cutoff)
      (recordCountThroughPosition source.records cutoff) := by
  have increasing := (shows.chronological all).increasing
  have brackets := @PersistentSequence.brackets_countThrough _ source.records _
    (shows.toList ▸ increasing) cutoff
  rw [shows.toList] at brackets
  exact brackets

theorem drop_firstOffsetAfter (after : Option JournalPosition) :
    source.records.toList.drop (firstOffsetAfter source after) =
      shown.filter fun record => after.all fun after => after < record.position := by
  rw [shows.toList]
  cases after with
  | none => simp [firstOffsetAfter]
  | some after =>
      simp only [Option.all_some, firstOffsetAfter]
      split
      · next ordinal =>
          have behind := (shows.brackets_ordinals all ordinal after).drop_eq_filter
          simp only [Int.ofNat_lt] at behind
          rw [← behind]
          obtain within | beyond := Nat.le_total after shown.length
          · rw [Nat.min_eq_left within]
          · rw [Nat.min_eq_right beyond, List.drop_length, List.drop_eq_nil_iff.mpr beyond]
      · have behind := (shows.brackets_count all after).drop_eq_filter
        simp only [Int.ofNat_lt] at behind
        rw [← behind]

end

omit source records in
theorem find?_of_brackets (increasing : InOrder shown)
    {position : JournalPosition} {count : Nat}
    (brackets : PersistentSequence.Brackets JournalRecord.position shown ((position : Int) - 1)
      count count) :
    (shown[count]?.filter fun record => decide (record.position = position)) =
      shown.find? fun record => decide (record.position = position) := by
  obtain ⟨-, -, below, above⟩ := brackets
  by_cases found : ∃ inside : count < shown.length, shown[count].position = position
  · obtain ⟨inside, rfl⟩ := found
    rw [List.getElem?_eq_getElem inside, increasing.find?_of_mem (List.getElem_mem inside)]
    simp
  · have absent : shown.find? (fun record => decide (record.position = position)) = none := by
      rw [List.find?_eq_none]
      intro record member same
      obtain ⟨index, inside, rfl⟩ := List.mem_iff_getElem.mp member
      obtain rfl := decide_eq_true_iff.mp same
      obtain before | behind := Nat.lt_or_ge index count
      · have := below index inside before
        omega
      · have reached : count < shown.length := by omega
        have later := above count reached (Nat.le_refl count)
        obtain rfl | beyond := Nat.eq_or_lt_of_le behind
        · exact found ⟨inside, rfl⟩
        · have increased := increasing.getElem_lt beyond inside
          omega
    rw [absent, Option.filter_eq_none_iff]
    intro record entry same
    obtain ⟨inside, rfl⟩ := List.getElem?_eq_some_iff.mp entry
    exact found ⟨inside, decide_eq_true_iff.mp same⟩

theorem journalRecordByPosition_eq (shows : Shows source records shown)
    (all : Chronological records) {position : JournalPosition} (positive : 1 ≤ position) :
    journalRecordByPosition position (.indexed source) =
      shown.find? fun record => record.position = position := by
  have increasing := (shows.chronological all).increasing
  simp only [journalRecordByPosition]
  split
  · next hidden =>
      refine (List.find?_eq_none.mpr fun record member => ?_).symm
      rw [shows.window, List.mem_filter, decide_eq_true_iff] at member
      simpa using Nat.ne_of_lt (Nat.lt_of_le_of_lt member.2 hidden)
  · next within =>
      split
      · next ordinal =>
          -- the last position is the length, so the record at the position's ordinal exists
          have ordinals := shows.ordinals all ordinal
          have within : position ≤ shown.length := by
            refine Nat.le_trans (Nat.le_of_not_lt within) ?_
            rw [JournalRecordEvidence.throughPosition, shows.last]
            cases found : shown.getLast? with
            | none => exact Nat.zero_le _
            | some last =>
                obtain ⟨index, inside, rfl⟩ :=
                  List.mem_iff_getElem.mp (List.mem_of_getLast? found)
                simp only [Option.map_some, Option.getD_some, ordinals index inside]
                exact inside
          have inside : position - 1 < shown.length :=
            Nat.lt_of_lt_of_le (Nat.sub_one_lt_of_lt positive) within
          have at_ordinal := ordinals (position - 1) inside
          rw [Nat.sub_add_cancel positive] at at_ordinal
          rw [← Nat.cast_pred positive, PersistentSequence.get_natCast, shows.toList,
            List.getElem?_eq_getElem inside]
          conv_rhs => rw [← at_ordinal]
          exact (increasing.find?_of_mem (List.getElem_mem inside)).symm
      · rw [PersistentSequence.get_natCast, shows.toList]
        exact find?_of_brackets increasing (shows.brackets_count all _)

end Shows

end Dalph
