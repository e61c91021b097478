import Dalph.WorkflowJournal.EvidenceIndex

/-!
# Dispositions of Stop requests

A Stop abandons an attempt, and then either releases its claim or observes that there is nothing to
release.  The outcome of a release names only its operation, so it belongs to the request of the
latest intent before it under that operation.
-/

namespace Dalph

/-- What a Stop request leaves in the journal. -/
inductive StopDispositionKind where
  | attemptImplementationAbandoned
  | taskClaimReleaseIntended
  | taskClaimReleased
  | stoppedAttemptClaimNoReleaseObserved
deriving DecidableEq

def StopDispositionKind.text : StopDispositionKind → String
  | attemptImplementationAbandoned => "AttemptImplementationAbandoned"
  | taskClaimReleaseIntended => "TaskClaimReleaseIntended"
  | taskClaimReleased => "TaskClaimReleased"
  | stoppedAttemptClaimNoReleaseObserved => "StoppedAttemptClaimNoReleaseObserved"

def stopDispositionKind? : WorkflowJournalEvent → Option StopDispositionKind
  | .attemptImplementationAbandoned _ => some .attemptImplementationAbandoned
  | .taskClaimReleaseIntended _ => some .taskClaimReleaseIntended
  | .taskClaimReleased _ => some .taskClaimReleased
  | .stoppedAttemptClaimNoReleaseObserved _ => some .stoppedAttemptClaimNoReleaseObserved
  | _ => none

/-- Records by request and kind, and release intents by operation. -/
structure StopRequestDispositionEvidence where
  byRequestKind : SequenceIndex String JournalRecord
  releaseIntents : SequenceIndex OperationId JournalRecord

def emptyStopRequestDisposition : StopRequestDispositionEvidence :=
  ⟨∅, ∅⟩

def stopDispositionKey (request : RunRequestId) (kind : StopDispositionKind) : String :=
  Json.stringify (.arr [.str request.runId.value, .str request.nonce, .str kind.text])

def stoppedRequest? : TaskClaimReleaseAuthority → Option RunRequestId
  | .stoppedAttempt _ requestId => some requestId
  | _ => none

def intendedStopRequest? (intent : JournalRecord) : Option RunRequestId :=
  match intent.event with
  | .taskClaimReleaseIntended operation => stoppedRequest? operation.authority
  | _ => none

def priorStopRequestForRelease (index : StopRequestDispositionEvidence) (operationId : OperationId)
    (position : JournalPosition) : Option RunRequestId :=
  match (index.releaseIntents.bucket operationId).lastVisible (·.position) (position - 1 : Int) with
  | none => none
  | some intent => if intent.position < position then intendedStopRequest? intent else none

def stopRequestFor (index : StopRequestDispositionEvidence) (record : JournalRecord) :
    Option RunRequestId :=
  match record.event with
  | .attemptImplementationAbandoned event => some event.requestId
  | .stoppedAttemptClaimNoReleaseObserved event => some event.requestId
  | .taskClaimReleaseIntended operation => stoppedRequest? operation.authority
  | .taskClaimReleased release =>
      priorStopRequestForRelease index release.operationId record.position
  | _ => none

def intendedRelease? (record : JournalRecord) : Option OperationId :=
  match record.event with
  | .taskClaimReleaseIntended operation => some operation.release.operationId
  | _ => none

def appendStopRequestDisposition (index : StopRequestDispositionEvidence) (record : JournalRecord) :
    StopRequestDispositionEvidence :=
  match stopDispositionKind? record.event with
  | none => index
  | some kind =>
      let key := (stopRequestFor index record).map (stopDispositionKey · kind)
      { byRequestKind := index.byRequestKind.pushAll key.toList record
        releaseIntents := index.releaseIntents.pushAll (intendedRelease? record).toList record }

def stopRequestDispositionFrom (records : List JournalRecord) : StopRequestDispositionEvidence :=
  records.foldl appendStopRequestDisposition emptyStopRequestDisposition

structure StopRequestDisposition where
  abandonment : Option JournalRecord
  releaseIntent : Option JournalRecord
  releaseOutcome : Option JournalRecord
  noRelease : Option JournalRecord

def stopRequestDispositionAt (index : StopRequestDispositionEvidence) (request : RunRequestId)
    (throughPosition : Int) : StopRequestDisposition :=
  let at_ (kind : StopDispositionKind) :=
    (index.byRequestKind.bucket (stopDispositionKey request kind)).lastVisible (·.position)
      throughPosition
  { abandonment := at_ .attemptImplementationAbandoned
    releaseIntent := at_ .taskClaimReleaseIntended
    releaseOutcome := at_ .taskClaimReleased
    noRelease := at_ .stoppedAttemptClaimNoReleaseObserved }

def lastReleaseIntent? (records : List JournalRecord) (operationId : OperationId) :
    Option JournalRecord :=
  (records.filter fun record => intendedRelease? record = some operationId).getLast?

/-- The Stop request that a record disposes of, by the records before it. -/
def scannedStopRequest? (records : List JournalRecord) (record : JournalRecord) :
    Option RunRequestId :=
  match record.event with
  | .attemptImplementationAbandoned event => some event.requestId
  | .stoppedAttemptClaimNoReleaseObserved event => some event.requestId
  | .taskClaimReleaseIntended operation => stoppedRequest? operation.authority
  | .taskClaimReleased release =>
      (lastReleaseIntent? (earlierThan records record) release.operationId).bind
        intendedStopRequest?
  | _ => none

def disposesOf (records : List JournalRecord) (request : RunRequestId) (kind : StopDispositionKind)
    (record : JournalRecord) : Bool :=
  stopDispositionKind? record.event = some kind && scannedStopRequest? records record = some request

def lastDisposition? (records : List JournalRecord) (request : RunRequestId)
    (kind : StopDispositionKind) : Option JournalRecord :=
  (records.filter (disposesOf records request kind)).getLast?

section

variable {records : List JournalRecord} {record : JournalRecord}
  {index : StopRequestDispositionEvidence}

theorem stopDispositionKey_inj {request other : RunRequestId} {kind kind' : StopDispositionKind}
    (same : stopDispositionKey request kind = stopDispositionKey other kind') :
    request = other ∧ kind = kind' := by
  have values := Json.stringify_injective
    (.arr (by simp [Json.WellFormed.str])) (.arr (by simp [Json.WellFormed.str])) same
  obtain ⟨nonce, run, named⟩ := request
  obtain ⟨nonce', run', named'⟩ := other
  cases kind <;> cases kind' <;> simp_all [StopDispositionKind.text]

/-- The index has the records of every request and kind, and the intents of every operation. -/
structure StopRequestDispositionEvidence.Shows (index : StopRequestDispositionEvidence)
    (records : List JournalRecord) : Prop where
  byRequestKind : ∀ request kind,
    (index.byRequestKind.bucket (stopDispositionKey request kind)).toList =
      records.filter (disposesOf records request kind)
  releaseIntents : ∀ operationId, (index.releaseIntents.bucket operationId).toList =
    records.filter fun record => intendedRelease? record = some operationId

section

variable (shows : index.Shows records) (increasing : InOrder records)
  (last : ∀ earlier ∈ records, earlier.position < record.position)
include shows increasing last

theorem priorStopRequestForRelease_eq (operationId : OperationId) :
    priorStopRequestForRelease index operationId record.position =
      (lastReleaseIntent? records operationId).bind intendedStopRequest? := by
  have ordered : InOrder
      (index.releaseIntents.bucket operationId).toList := by
    rw [shows.releaseIntents]
    exact increasing.sublist List.filter_sublist
  have visible : (records.filter fun record =>
      decide (intendedRelease? record = some operationId)).filter
        (fun earlier => decide ((earlier.position : Int) ≤ (record.position : Int) - 1)) =
      records.filter fun record => decide (intendedRelease? record = some operationId) := by
    refine List.filter_eq_self.mpr fun earlier member => decide_eq_true ?_
    exact Int.le_sub_one_of_lt (Int.ofNat_lt.mpr (last earlier (List.mem_filter.mp member).1))
  unfold priorStopRequestForRelease lastReleaseIntent?
  rw [PersistentSequence.lastVisible_eq ordered, shows.releaseIntents, visible]
  cases found : (records.filter fun record =>
      decide (intendedRelease? record = some operationId)).getLast? with
  | none => rfl
  | some intent =>
      have member := (List.mem_filter.mp (List.mem_of_getLast? found)).1
      exact if_pos (last intent member)

theorem stopRequestFor_eq :
    stopRequestFor index record = scannedStopRequest? (records ++ [record]) record := by
  unfold stopRequestFor scannedStopRequest?
  rw [earlierThan_append_self last]
  split <;> try rfl
  exact priorStopRequestForRelease_eq shows increasing last _

end

theorem disposesOf_append (last : ∀ earlier ∈ records, earlier.position < record.position)
    (request : RunRequestId) (kind : StopDispositionKind) {earlier : JournalRecord}
    (member : earlier ∈ records) :
    disposesOf (records ++ [record]) request kind earlier =
      disposesOf records request kind earlier := by
  unfold disposesOf scannedStopRequest?
  rw [earlierThan_append last member]

theorem StopRequestDispositionEvidence.Shows.append (shows : index.Shows records)
    (increasing : InOrder records)
    (last : ∀ earlier ∈ records, earlier.position < record.position) :
    (appendStopRequestDisposition index record).Shows (records ++ [record]) := by
  unfold appendStopRequestDisposition
  cases disposes : stopDispositionKind? record.event with
  | none =>
      have unintended : intendedRelease? record = none := by
        unfold intendedRelease?
        split
        · next found => simp [found, stopDispositionKind?] at disposes
        · rfl
      refine ⟨fun request kind => ?_, fun operationId => ?_⟩
      · rw [filter_append_of_lookback fun _ => disposesOf_append last request kind,
          if_neg (by simp [disposesOf, disposes]), List.append_nil]
        exact shows.byRequestKind request kind
      · rw [List.filter_append, List.filter_cons_of_neg (by simp [unintended]), List.filter_nil,
          List.append_nil]
        exact shows.releaseIntents operationId
  | some kind =>
      refine ⟨fun request other => ?_, fun operationId => ?_⟩
      · refine lists_pushAll ?_ (shows.byRequestKind request other)
          (fun _ => disposesOf_append last request other) ?_
        · cases stopRequestFor index record <;> simp
        · rw [stopRequestFor_eq shows increasing last, Option.mem_toList, disposesOf, disposes]
          simp only [Option.some.injEq, Bool.and_eq_true, decide_eq_true_eq,
            Option.map_eq_some_iff]
          constructor
          · rintro ⟨owner, found, same⟩
            obtain ⟨rfl, rfl⟩ := stopDispositionKey_inj same
            exact ⟨rfl, found⟩
          · rintro ⟨rfl, found⟩
            exact ⟨request, found, rfl⟩
      · exact lists_pushAll_option (shows.releaseIntents operationId) (by simp)

theorem shows_stopRequestDispositionFrom (increasing : InOrder records) :
    (stopRequestDispositionFrom records).Shows records := by
  induction records using List.reverseRecOn with
  | nil => exact ⟨fun _ _ => rfl, fun _ => rfl⟩
  | append_singleton records record induction =>
      obtain ⟨earlier, _, last⟩ := List.pairwise_append.mp increasing
      rw [stopRequestDispositionFrom, List.foldl_append]
      exact (induction earlier).append earlier fun before member => last before member record (by simp)

theorem filter_disposesOf (records : List JournalRecord)
    (request : RunRequestId) (kind : StopDispositionKind) (cutoff : Int) :
    let visible := records.filter fun record => decide ((record.position : Int) ≤ cutoff)
    (records.filter (disposesOf records request kind)).filter
        (fun record => decide ((record.position : Int) ≤ cutoff)) =
      visible.filter (disposesOf visible request kind) := by
  intro visible
  rw [List.filter_comm]
  refine List.filter_congr fun record member => ?_
  have through : (record.position : Int) ≤ cutoff := by
    simpa using (List.mem_filter.mp member).2
  have earlier : earlierThan visible record = earlierThan records record := by
    unfold earlierThan
    rw [List.filter_filter]
    refine List.filter_congr fun other _ => ?_
    by_cases before : other.position < record.position
    · have within : (other.position : Int) ≤ cutoff := (Int.ofNat_lt.mpr before).le.trans through
      simp [before, within]
    · simp [before]
  unfold disposesOf scannedStopRequest?
  rw [earlier]

theorem stopRequestDispositionAt_eq (increasing : InOrder records)
    (request : RunRequestId) (throughPosition : Int) :
    let visible := records.filter fun record => decide ((record.position : Int) ≤ throughPosition)
    stopRequestDispositionAt (stopRequestDispositionFrom records) request throughPosition =
      { abandonment := lastDisposition? visible request .attemptImplementationAbandoned
        releaseIntent := lastDisposition? visible request .taskClaimReleaseIntended
        releaseOutcome := lastDisposition? visible request .taskClaimReleased
        noRelease := lastDisposition? visible request .stoppedAttemptClaimNoReleaseObserved } := by
  intro visible
  have shows := shows_stopRequestDispositionFrom increasing
  have at_eq : ∀ kind, ((stopRequestDispositionFrom records).byRequestKind.bucket
      (stopDispositionKey request kind)).lastVisible JournalRecord.position throughPosition =
        lastDisposition? visible request kind := by
    intro kind
    have ordered : InOrder ((stopRequestDispositionFrom
        records).byRequestKind.bucket (stopDispositionKey request kind)).toList := by
      rw [shows.byRequestKind]
      exact increasing.sublist List.filter_sublist
    rw [PersistentSequence.lastVisible_eq ordered, shows.byRequestKind,
      filter_disposesOf]
    rfl
  unfold stopRequestDispositionAt
  rw [StopRequestDisposition.mk.injEq]
  exact ⟨at_eq _, at_eq _, at_eq _, at_eq _⟩

end

end Dalph
