import Dalph.WorkflowJournal.RunLifecycle

/-!
# Partition histories, completions and archive retention

Decisions shared by both journal stores: whether a partition's history is valid, what one terminal
history leaves behind, and which archived histories an owner may remove.
-/

namespace Dalph

/-- Values kept for each Run.  No operation depends on the order of the entries. -/
abbrev RunMap (Value : Type) := AList fun _ : RunId => Value

inductive JournalPartitionHistoryDecision where
  | invalidPartitionHistory (detail : String)
  | validPartitionHistory (isTerminal : Bool)
deriving DecidableEq

/-- Reduces one partition history; every Cold history must end in Run termination. -/
def decideJournalPartitionHistory (kernel : HistoryKernel) (journalPartition : JournalPartition)
    (runId : RunId) (records : List JournalRecord) : JournalPartitionHistoryDecision :=
  match kernel.reductionIssues runId records with
  | [] =>
      if journalPartition = .cold ∧ endsTerminated records = false then
        .invalidPartitionHistory "Cold history is not terminal"
      else .validPartitionHistory (endsTerminated records)
  | issues => .invalidPartitionHistory (String.intercalate "; " issues)

variable {kernel : HistoryKernel} {records : List JournalRecord}

theorem decideJournalPartitionHistory_cold {runId : RunId}
    (valid : decideJournalPartitionHistory kernel .hot runId records =
      .validPartitionHistory true) :
    decideJournalPartitionHistory kernel .cold runId records = .validPartitionHistory true := by
  unfold decideJournalPartitionHistory at *
  split at valid
  · simp only [reduceCtorEq, false_and, if_false,
      JournalPartitionHistoryDecision.validPartitionHistory.injEq] at valid
    simp [valid]
  · cases valid

theorem endsTerminated_of_valid {journalPartition : JournalPartition} {runId : RunId}
    {isTerminal : Bool}
    (valid : decideJournalPartitionHistory kernel journalPartition runId records =
      .validPartitionHistory isTerminal) : endsTerminated records = isTerminal := by
  unfold decideJournalPartitionHistory at valid
  split at valid
  · split_ifs at valid
    simpa using valid
  · cases valid

theorem decideJournalPartitionHistory_cold_nil (runId : RunId) (isTerminal : Bool) :
    decideJournalPartitionHistory kernel .cold runId [] ≠ .validPartitionHistory isTerminal := by
  intro valid
  have ends := endsTerminated_of_valid valid
  unfold decideJournalPartitionHistory at valid
  split at valid
  · simp [endsTerminated] at valid
  · cases valid

def publicationSucceeded? (record : JournalRecord) : Option Payload :=
  match record.event with
  | .protocol event =>
      if event.kind = .remotePublicationSucceeded then some event.payload else none
  | _ => none

def JournalRecord.runTerminated? (record : JournalRecord) : Option WorkflowRunTerminated :=
  match record.event with
  | .workflowRunTerminated event => some event
  | _ => none

/-- Publication proof that a history retains. -/
def completionPublicationOf (records : List JournalRecord) : RunCompletionPublication :=
  match records.reverse.find? fun record => (publicationSucceeded? record).isSome with
  | none => .noRecordedPublication
  | some record =>
      match publicationSucceeded? record with
      | none => .noRecordedPublication
      | some publication => .recordedPublication publication record.position

/-- Bounded terminal metadata of one validated chronology. -/
def compactRunCompletion (runId : RunId) (records : List JournalRecord)
    (timing : RunCompletionTiming) : Option RunCompletion := do
  let began ← records.head?.bind (·.runBegan?)
  let terminal ← records.getLast?
  let terminated ← terminal.runTerminated?
  return { runId
           target := began.target
           disposition := terminated.disposition
           terminatedAt := terminal.position
           timing
           publication := completionPublicationOf records }

theorem publicationSucceeded?_of_terminated {record : JournalRecord}
    {terminated : WorkflowRunTerminated} (terminal : record.runTerminated? = some terminated) :
    publicationSucceeded? record = none := by
  unfold JournalRecord.runTerminated? at terminal
  unfold publicationSucceeded?
  split at terminal <;> simp_all

theorem publicationSucceeded?_of_began {record : JournalRecord} {began : WorkflowRunBegan}
    (beginning : record.runBegan? = some began) : publicationSucceeded? record = none := by
  unfold JournalRecord.runBegan? at beginning
  unfold publicationSucceeded?
  split at beginning <;> simp_all

theorem completionPublicationOf_recorded {publication : Payload} {recordedAt : JournalPosition}
    (recorded : completionPublicationOf records = .recordedPublication publication recordedAt) :
    ∃ record ∈ records, publicationSucceeded? record = some publication ∧
      record.position = recordedAt := by
  unfold completionPublicationOf at recorded
  split at recorded
  · cases recorded
  next record found =>
    split at recorded
    · cases recorded
    next published =>
      cases recorded
      exact ⟨record, List.mem_reverse.mp (List.mem_of_find?_eq_some found), published, rfl⟩

theorem compactRunCompletion_eq_some {runId : RunId} {timing : RunCompletionTiming}
    {completion : RunCompletion}
    (compact : compactRunCompletion runId records timing = some completion) :
    ∃ first last began terminated, records.head? = some first ∧ records.getLast? = some last ∧
      first.runBegan? = some began ∧ last.runTerminated? = some terminated ∧
      completion = { runId, target := began.target, disposition := terminated.disposition,
                     terminatedAt := last.position, timing,
                     publication := completionPublicationOf records } := by
  simp only [compactRunCompletion, Option.bind_eq_bind, Option.bind_eq_some_iff, Option.pure_def,
    Option.some.injEq] at compact
  obtain ⟨began, ⟨first, head, beginning⟩, last, final, terminated, terminal, rfl⟩ := compact
  exact ⟨first, last, began, terminated, head, final, beginning, terminal, rfl⟩

inductive RunHistoryAvailability where
  | available
  | deleted (deletion : RunHistoryDeletion)
deriving DecidableEq

inductive RunCompletionInspection where
  | noCompletion (runId : RunId)
  | completedRun (completion : RunCompletion) (history : RunHistoryAvailability)
deriving DecidableEq

def archiveByteBudget : Nat := 268435456

def archiveAgeMillis : Nat := 30 * 24 * 60 * 60 * 1000

def archivePassRunLimit : Nat := 32

def archivePassMillis : Nat := 1000

structure ArchiveRetentionCandidate where
  runId : RunId
  baseline : RunCompletionTime
  bytes : Nat
deriving DecidableEq

/-- Storage facts of one unit of retention. -/
structure ArchiveRetentionSnapshot where
  expiredBacklog : Nat
  savedBytes : Nat
  candidates : List ArchiveRetentionCandidate
deriving DecidableEq

/-- Why a pass left work behind. -/
inductive ArchiveRetentionDeferral where
  | none
  | bound
  | guarded
  | storageFailure
deriving DecidableEq

structure ArchiveRetentionObservation where
  savedBytes : Nat
  excessBytes : Nat
  expiredBacklog : Nat
  deletedRuns : List RunId
  deferred : ArchiveRetentionDeferral
  failure : Option JournalStoreFailure
deriving DecidableEq

def retentionBaseline (completion : RunCompletion) : RunCompletionTime :=
  match completion.timing with
  | .known completedAt => completedAt
  | .legacyBaseline verifiedAt => verifiedAt

def utf16 (text : String) : List Nat :=
  text.toList.flatMap fun char =>
    if char.toNat < 0x10000 then [char.toNat]
    else [0xD800 + (char.toNat - 0x10000) / 0x400, 0xDC00 + (char.toNat - 0x10000) % 0x400]

def retentionOrder (left right : ArchiveRetentionCandidate) : Bool :=
  left.baseline < right.baseline ||
    (left.baseline = right.baseline && utf16 left.runId.value ≤ utf16 right.runId.value)

def retentionReason (candidate : ArchiveRetentionCandidate) (now total : Nat) :
    Option RunHistoryDeletionReason :=
  let aged := candidate.baseline + archiveAgeMillis ≤ now
  let pressure := total > archiveByteBudget
  if aged then some (if pressure then .ageAndBudget else .age)
  else if pressure then some .budget
  else none

/-- The next candidate of a pass: the first expired one, else the first one under pressure. -/
def selectArchiveCandidate (snapshot : ArchiveRetentionSnapshot) (now : Nat) :
    Option ArchiveRetentionCandidate :=
  let ordered := snapshot.candidates.mergeSort retentionOrder
  match ordered.find? fun candidate => candidate.baseline + archiveAgeMillis ≤ now with
  | some candidate => some candidate
  | none => if snapshot.savedBytes > archiveByteBudget then ordered.head? else none

section RetentionPass

variable {State : Type*} (snapshot : State → Nat → ArchiveRetentionSnapshot)
  (remove : ArchiveRetentionCandidate → Nat → State → Except JournalStoreFailure Unit × State)

structure ArchivePassEnd (State : Type*) where
  /-- Storage facts before the last unit. -/
  observed : ArchiveRetentionSnapshot
  deletedRuns : List RunId
  failure : Option JournalStoreFailure
  bounded : Bool
  state : State

/-- Units of one pass.  `clock` gives the reading before each unit; `remaining` counts the Runs
that the pass may still remove. -/
def archiveRetentionUnits (now : Nat) (clock : Nat → Nat) :
    Nat → List RunId → State → ArchivePassEnd State
  | remaining, deletedRuns, state =>
      let observed := snapshot state now
      match selectArchiveCandidate observed now with
      | none => ⟨observed, deletedRuns, none, false, state⟩
      | some selected =>
          match remaining with
          | 0 => ⟨observed, deletedRuns, none, true, state⟩
          | remaining + 1 =>
              if clock deletedRuns.length - now ≥ archivePassMillis then
                ⟨observed, deletedRuns, none, true, state⟩
              else
                match remove selected now state with
                | (.error failure, next) => ⟨observed, deletedRuns, some failure, false, next⟩
                | (.ok (), next) =>
                    archiveRetentionUnits now clock remaining (deletedRuns ++ [selected.runId]) next

/-- One policy interpreted by both storage owners. -/
def archiveRetentionPass (now : Nat) (clock : Nat → Nat) (state : State) :
    ArchiveRetentionObservation × State :=
  let pass := archiveRetentionUnits snapshot remove now clock archivePassRunLimit [] state
  let excessBytes := pass.observed.savedBytes - archiveByteBudget
  ({ savedBytes := pass.observed.savedBytes
     excessBytes
     expiredBacklog := pass.observed.expiredBacklog
     deletedRuns := pass.deletedRuns
     deferred :=
       if pass.failure.isSome then .storageFailure
       else if pass.bounded then .bound
       else if excessBytes > 0 then .guarded
       else .none
     failure := pass.failure },
    pass.state)

variable {snapshot remove}

section

variable {Invariant : State → Prop} {now : Nat} {state : State}
  (preserved : ∀ candidate state, Invariant state → Invariant (remove candidate now state).2)
include preserved

theorem archiveRetentionUnits_preserves {clock : Nat → Nat} (remaining : Nat)
    (deletedRuns : List RunId) (holds : Invariant state) :
    Invariant (archiveRetentionUnits snapshot remove now clock remaining deletedRuns state).state := by
  induction remaining generalizing deletedRuns state with
  | zero =>
      unfold archiveRetentionUnits
      dsimp only
      split
      · exact holds
      · exact holds
  | succ remaining induction =>
      unfold archiveRetentionUnits
      dsimp only
      split
      · exact holds
      next selected _ =>
        have next := preserved selected state holds
        split_ifs
        · exact holds
        · split
          next result =>
            rw [result] at next
            exact next
          next result =>
            rw [result] at next
            exact induction _ next

theorem archiveRetentionPass_preserves {clock : Nat → Nat} (holds : Invariant state) :
    Invariant (archiveRetentionPass snapshot remove now clock state).2 :=
  archiveRetentionUnits_preserves preserved _ _ holds

end

end RetentionPass

end Dalph
