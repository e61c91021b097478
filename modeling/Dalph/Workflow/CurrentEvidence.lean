import Dalph.Workflow.PresentedCommands

/-!
# Current evidence

Current executor evidence is derived in two ways: a list is folded whole, an index is asked for the
last record of each kind.  A record hides the earlier ones of its kind from the index, so the two
agree where hidden records would have changed nothing.
-/

namespace Dalph

open PersistentSequence (Increasing)

def exactAfter (plannedAttempt : PlannedTaskAttempt) (after : Option JournalPosition)
    (record : JournalRecord) : Option PlannedAttemptExecutorEvidence :=
  if after.any fun after => record.position ≤ after then none
  else evidenceFromRecord record plannedAttempt

def showsIssueFor (plannedAttempt : PlannedTaskAttempt) (record : JournalRecord) : Bool :=
  projectionShowsIssue record.event &&
    (projectedAttempt? record.event).any fun projected =>
      projected.runId = plannedAttempt.runId && projected.attemptId = plannedAttempt.attemptId

def showsUncrossedBegin : WorkflowJournalEvent → Bool
  | .plannedAttemptExecutorCommandProjectionObserved event =>
      match event.observation with
      | .executorBeginNotCrossed _ => true
      | _ => false
  | _ => false

section

variable {record : JournalRecord} {plannedAttempt : PlannedTaskAttempt}
  {after : Option JournalPosition} {evidence : PlannedAttemptExecutorEvidence}

theorem exactAfter_eq_some : exactAfter plannedAttempt after record = some evidence ↔
    (after.any fun after => record.position ≤ after) = false ∧
      evidenceFromRecord record plannedAttempt = some evidence := by
  unfold exactAfter
  split
  · next early => simp [early]
  · next late => simp [Bool.eq_false_iff.mpr late]

theorem observedAt_of_exactAfter (found : exactAfter plannedAttempt after record = some evidence) :
    evidence.observedAt = record.position :=
  observedAt_of_evidence (exactAfter_eq_some.mp found).2

theorem reporting_of_evidence (found : evidenceFromRecord record plannedAttempt = some evidence) :
    record.event.tag ∈ reportingKinds ∧
      (evidence.isAccepted = true ↔ record.event.tag = .plannedAttemptExecutorWorkReported) := by
  obtain ⟨⟨report, origin⟩, reported, found⟩ := Option.bind_eq_some_iff.mp found
  dsimp only at found
  split at found
  · cases found
    unfold reportOf at reported
    split at reported
    · next event shown =>
        have kind : record.event.tag = .plannedAttemptExecutorWorkReported := by rw [shown]; rfl
        cases reported
        rw [kind]
        exact ⟨by decide, iff_of_true rfl rfl⟩
    · next event shown =>
        have kind : record.event.tag = .plannedAttemptExecutorCommandResponseObserved := by
          rw [shown]; rfl
        cases reported
        rw [kind]
        exact ⟨by decide, iff_of_false Bool.false_ne_true (by decide)⟩
    · next event shown =>
        have kind : record.event.tag = .plannedAttemptExecutorCommandProjectionObserved := by
          rw [shown]; rfl
        split at reported
        · cases reported
          rw [kind]
          exact ⟨by decide, iff_of_false Bool.false_ne_true (by decide)⟩
        · cases reported
    · next event shown =>
        have kind : record.event.tag = .plannedAttemptExecutorStateObserved := by rw [shown]; rfl
        split at reported
        · cases reported
          rw [kind]
          exact ⟨by decide, iff_of_false Bool.false_ne_true (by decide)⟩
        · cases reported
    · cases reported
  · cases found

theorem reporting_cases (reporting : record.event.tag ∈ reportingKinds) :
    (reportOf record.event).isSome = true ∨ projectionShowsIssue record.event = true ∨
      showsUncrossedBegin record.event = true := by
  obtain ⟨event, _, _, _⟩ := record
  cases event <;>
    simp only [WorkflowJournalEvent.tag, reportingKinds, observedKinds, List.mem_cons,
      List.not_mem_nil, reduceCtorEq, or_false] at reporting
  case plannedAttemptExecutorWorkReported event => exact .inl rfl
  case plannedAttemptExecutorCommandResponseObserved event => exact .inl rfl
  case plannedAttemptExecutorCommandProjectionObserved event =>
      simp only [reportOf, projectionShowsIssue, showsUncrossedBegin]
      cases event.observation <;> simp
  case plannedAttemptExecutorStateObserved event =>
      simp only [reportOf, projectionShowsIssue, showsUncrossedBegin]
      cases event.observation <;> simp

end

section

variable {source : JournalHistorySource} {records : List JournalRecord}
  {plannedAttempt : PlannedTaskAttempt} {after : Option JournalPosition}
  {kind : WorkflowJournalEventTag} {record : JournalRecord}

theorem late_of_le {earlier later : JournalPosition} (through : earlier ≤ later)
    (late : (after.any fun after => earlier ≤ after) = false) :
    (after.any fun after => later ≤ after) = false := by
  cases after with
  | none => rfl
  | some start =>
      simp only [Option.any_some, decide_eq_false_iff_not] at late ⊢
      exact fun early => late (Nat.le_trans through early)

theorem named_of_reporting (reporting : kind ∈ reportingKinds) :
    kind ≠ .plannedAttemptWorktreeObserved := by
  rintro rfl
  exact absurd reporting (by decide)

theorem Presents.lastOfKindAfter_eq_some (presents : Presents source records)
    (increasing : InOrder records) (reporting : kind ∈ reportingKinds) :
    lastOfKindAfter source plannedAttempt kind after = some record ↔
      record ∈ records ∧ record.event.tag = kind ∧
        concernsAttempt plannedAttempt.attemptId record = true ∧
        (after.any fun after => record.position ≤ after) = false ∧
        ∀ other ∈ records, other.event.tag = kind →
          concernsAttempt plannedAttempt.attemptId other = true → other.position ≤ record.position := by
  have about : ∀ other : JournalRecord,
      (decide (other.event.tag = kind) && decide (plannedAttempt.attemptId ∈ attemptIdsOf other)) =
        true ↔ other.event.tag = kind ∧ concernsAttempt plannedAttempt.attemptId other = true := by
    intro other
    rw [Bool.and_eq_true, decide_eq_true_eq, decide_eq_true_eq]
    exact and_congr_right fun same => mem_attemptIdsOf_of_reporting reporting same
  rw [lastOfKindAfter, presents.lastRecordForAttemptKind _ (named_of_reporting reporting),
    Option.filter_eq_some_iff, findLast_eq_some_iff _ increasing]
  simp only [about, Bool.not_eq_true', and_imp]
  constructor
  · rintro ⟨⟨member, ⟨same, concerned⟩, latest⟩, late⟩
    exact ⟨member, same, concerned, late, latest⟩
  · rintro ⟨member, same, concerned, late, latest⟩
    exact ⟨⟨member, ⟨same, concerned⟩, latest⟩, late⟩

theorem Presents.exists_lastOfKindAfter (presents : Presents source records)
    (increasing : InOrder records)
    (reporting : record.event.tag ∈ reportingKinds) (member : record ∈ records)
    (concerned : concernsAttempt plannedAttempt.attemptId record = true)
    (late : (after.any fun after => record.position ≤ after) = false) :
    ∃ last, lastOfKindAfter source plannedAttempt record.event.tag after = some last ∧
      record.position ≤ last.position := by
  obtain ⟨last, _, found, _, through⟩ := exists_findLast
    (fun other => decide (other.event.tag = record.event.tag) &&
      decide (plannedAttempt.attemptId ∈ attemptIdsOf other)) increasing member
    (by simp [(mem_attemptIdsOf_of_reporting reporting rfl).mpr concerned])
  refine ⟨last, ?_, through⟩
  rw [lastOfKindAfter, presents.lastRecordForAttemptKind _ (named_of_reporting reporting), found,
    Option.filter_some, late_of_le through late]
  rfl

theorem latestObserved_eq_some {candidates : List PlannedAttemptExecutorEvidence}
    {evidence : PlannedAttemptExecutorEvidence} (member : evidence ∈ candidates)
    (greatest : ∀ candidate ∈ candidates, candidate.observedAt ≤ evidence.observedAt)
    (distinct : ∀ candidate ∈ candidates, candidate.observedAt = evidence.observedAt →
      candidate = evidence) : latestObserved candidates = some evidence := by
  let observedFirst (left right : PlannedAttemptExecutorEvidence) : Bool :=
    left.observedAt ≤ right.observedAt
  have sorted : (candidates.mergeSort observedFirst).Pairwise
      (fun left right => observedFirst left right = true) := by
    refine List.pairwise_mergeSort ?_ ?_ candidates
    · intro first second third before after
      simp only [observedFirst, decide_eq_true_eq] at before after ⊢
      exact Nat.le_trans before after
    · intro first second
      simp only [observedFirst, Bool.or_eq_true, decide_eq_true_eq]
      exact Nat.le_total _ _
  have listed : evidence ∈ candidates.mergeSort observedFirst := List.mem_mergeSort.mpr member
  obtain ⟨last, found⟩ := Option.isSome_iff_exists.mp
    (List.getLast?_isSome.mpr (List.ne_nil_of_mem listed))
  have inside : last ∈ candidates := List.mem_mergeSort.mp (List.mem_of_getLast? found)
  have through : evidence.observedAt ≤ last.observedAt := by
    obtain ⟨front, shape⟩ := List.getLast?_eq_some_iff.mp found
    rw [shape] at sorted listed
    rcases Log.mem_concat.mp listed with earlier | here
    · exact of_decide_eq_true ((List.pairwise_append.mp sorted).2.2 evidence earlier last (by simp))
    · rw [here]
  have same := distinct last inside (Nat.le_antisymm (greatest last inside) through)
  rw [latestObserved, show (fun left right : PlannedAttemptExecutorEvidence =>
    decide (left.observedAt ≤ right.observedAt)) = observedFirst from rfl, found, same]

end

/-- The executor records of a plan are in an order in which hidden ones change nothing. -/
structure OrderedEvidence (records : List JournalRecord) (plannedAttempt : PlannedTaskAttempt) :
    Prop where
  increasing : Increasing JournalRecord.position records
  concerned : ∀ record ∈ records, (evidenceFromRecord record plannedAttempt).isSome = true →
    concernsAttempt plannedAttempt.attemptId record = true
  exact_ : ∀ record ∈ records, concernsAttempt plannedAttempt.attemptId record = true →
    (reportOf record.event).isSome = true → (evidenceFromRecord record plannedAttempt).isSome = true
  issues : ∀ record ∈ records, concernsAttempt plannedAttempt.attemptId record = true →
    projectionShowsIssue record.event = true → showsIssueFor plannedAttempt record = true
  uncrossed : ∀ record ∈ records, concernsAttempt plannedAttempt.attemptId record = true →
    showsUncrossedBegin record.event = true → ∀ other ∈ records,
      (evidenceFromRecord other plannedAttempt).isSome = true → record.position < other.position

/-- A record gives the last exact report about a plan behind a position. -/
structure LastExact (records : List JournalRecord) (plannedAttempt : PlannedTaskAttempt)
    (after : Option JournalPosition) (record : JournalRecord)
    (evidence : PlannedAttemptExecutorEvidence) : Prop where
  member : record ∈ records
  found : exactAfter plannedAttempt after record = some evidence
  latest : ∀ other ∈ records, ∀ also, exactAfter plannedAttempt after other = some also →
    other.position ≤ record.position

section

variable {source : JournalHistorySource} {records : List JournalRecord}
  {plannedAttempt : PlannedTaskAttempt} {after : Option JournalPosition}
  {kind : WorkflowJournalEventTag} {record : JournalRecord}
  {evidence : PlannedAttemptExecutorEvidence}

theorem reporting_of_issue (issue : showsIssueFor plannedAttempt record = true) :
    record.event.tag ∈ [WorkflowJournalEventTag.plannedAttemptExecutorCommandProjectionObserved,
      .plannedAttemptExecutorStateObserved] ∧
      concernsAttempt plannedAttempt.attemptId record = true := by
  rw [showsIssueFor, Bool.and_eq_true] at issue
  obtain ⟨projected, shown, same⟩ := Option.any_eq_true _ _ |>.mp issue.2
  rw [Bool.and_eq_true, decide_eq_true_eq, decide_eq_true_eq] at same
  rw [concernsAttempt_iff]
  unfold projectedAttempt? at shown
  split at shown
  · next event observed =>
      cases shown
      rw [observed]
      exact ⟨List.mem_cons_self, _, rfl, same.2⟩
  · next event observed =>
      cases shown
      rw [observed]
      exact ⟨List.mem_cons_of_mem _ (List.mem_singleton.mpr rfl), _, rfl, same.2⟩
  · cases shown

theorem unreported_of_issue (issue : projectionShowsIssue record.event = true) :
    evidenceFromRecord record plannedAttempt = none := by
  have silent : reportOf record.event = none := by
    unfold projectionShowsIssue at issue
    split at issue
    · next event observed =>
        rw [observed, reportOf]
        cases shown : event.observation <;> simp_all
    · next event observed =>
        rw [observed, reportOf]
        cases shown : event.observation <;> simp_all
    · cases issue
  rw [evidenceFromRecord, silent]
  rfl

theorem LastExact.issue_behind (ordered : OrderedEvidence records plannedAttempt)
    (last : LastExact records plannedAttempt after record evidence) {later : JournalRecord}
    (member : later ∈ records) (reporting : later.event.tag ∈ reportingKinds)
    (concerned : concernsAttempt plannedAttempt.attemptId later = true)
    (behind : record.position < later.position) : projectionShowsIssue later.event = true := by
  obtain ⟨late, given⟩ := exactAfter_eq_some.mp last.found
  rcases reporting_cases reporting with reported | issue | uncrossed
  · obtain ⟨also, shown⟩ :=
      Option.isSome_iff_exists.mp (ordered.exact_ later member concerned reported)
    have found : exactAfter plannedAttempt after later = some also :=
      exactAfter_eq_some.mpr ⟨late_of_le (Nat.le_of_lt behind) late, shown⟩
    exact absurd (last.latest later member also found) (Nat.not_le.mpr behind)
  · exact issue
  · exact absurd
      (ordered.uncrossed later member concerned uncrossed record last.member (by rw [given]; rfl))
      (Nat.lt_asymm behind)

theorem exact_of_candidate (presents : Presents source records)
    (increasing : InOrder records) (reporting : kind ∈ reportingKinds)
    (found : indexedEvidenceCandidate source plannedAttempt kind after = some evidence) :
    ∃ record ∈ records, record.event.tag = kind ∧
      exactAfter plannedAttempt after record = some evidence := by
  obtain ⟨record, last, found⟩ := Option.bind_eq_some_iff.mp found
  obtain ⟨member, same, _, late, _⟩ :=
    (presents.lastOfKindAfter_eq_some increasing reporting).mp last
  exact ⟨record, member, same, exactAfter_eq_some.mpr ⟨late, found⟩⟩

theorem findLast_exact_eq_some (increasing : InOrder records)
    (test : PlannedAttemptExecutorEvidence → Bool) :
    findLast (records.filterMap (exactAfter plannedAttempt after)) test = some evidence ↔
      ∃ record ∈ records, exactAfter plannedAttempt after record = some evidence ∧
        test evidence = true ∧ ∀ other ∈ records, ∀ also,
          exactAfter plannedAttempt after other = some also → test also = true →
            other.position ≤ record.position := by
  rw [findLast_filterMap, Option.bind_eq_some_iff]
  simp only [findLast_eq_some_iff _ increasing, Option.any_eq_true, forall_exists_index, and_imp]
  constructor
  · rintro ⟨record, ⟨member, ⟨evidence', found', selected⟩, latest⟩, found⟩
    rw [found, Option.some.injEq] at found'
    subst found'
    exact ⟨record, member, found, selected, latest⟩
  · rintro ⟨record, member, found, selected, latest⟩
    exact ⟨record, ⟨member, ⟨evidence, found, selected⟩, latest⟩, found⟩

theorem reported_of_accepted
    (same : record.event.tag = .plannedAttemptExecutorWorkReported) :
    (reportOf record.event).isSome = true := by
  have reporting : record.event.tag ∈ reportingKinds := by
    rw [same]
    decide
  rcases reporting_cases reporting with reported | issue | uncrossed
  · exact reported
  · unfold projectionShowsIssue at issue
    split at issue
    · next event observed => rw [observed] at same; cases same
    · next event observed => rw [observed] at same; cases same
    · cases issue
  · unfold showsUncrossedBegin at uncrossed
    split at uncrossed
    · next event observed => rw [observed] at same; cases same
    · cases uncrossed

theorem accepted_eq (ordered : OrderedEvidence records plannedAttempt)
    (presents : Presents source records) :
    indexedEvidenceCandidate source plannedAttempt .plannedAttemptExecutorWorkReported after =
      findLast (records.filterMap (exactAfter plannedAttempt after)) (·.isAccepted) := by
  refine Option.ext fun evidence => ?_
  rw [findLast_exact_eq_some ordered.increasing, indexedEvidenceCandidate, Option.bind_eq_some_iff]
  simp only [presents.lastOfKindAfter_eq_some ordered.increasing
    (show WorkflowJournalEventTag.plannedAttemptExecutorWorkReported ∈ reportingKinds by decide)]
  constructor
  · rintro ⟨record, ⟨member, same, _, late, latest⟩, found⟩
    refine ⟨record, member, exactAfter_eq_some.mpr ⟨late, found⟩,
      (reporting_of_evidence found).2.mpr same, fun other listed also given accepted => ?_⟩
    have shown := (exactAfter_eq_some.mp given).2
    exact latest other listed ((reporting_of_evidence shown).2.mp accepted)
      (ordered.concerned other listed (by rw [shown]; rfl))
  · rintro ⟨record, member, given, accepted, latest⟩
    obtain ⟨late, found⟩ := exactAfter_eq_some.mp given
    refine ⟨record, ⟨member, (reporting_of_evidence found).2.mp accepted,
      ordered.concerned record member (by rw [found]; rfl), late,
      fun other listed same concerned => ?_⟩, found⟩
    by_contra behind
    obtain ⟨also, shown⟩ := Option.isSome_iff_exists.mp
      (ordered.exact_ other listed concerned (reported_of_accepted same))
    have behind := Nat.lt_of_not_le behind
    refine absurd (latest other listed also (exactAfter_eq_some.mpr
      ⟨late_of_le (Nat.le_of_lt behind) late, shown⟩) ((reporting_of_evidence shown).2.mpr same)) ?_
    exact Nat.not_le.mpr behind

theorem indexed_eq_none (presents : Presents source records)
    (increasing : InOrder records)
    (unreported : ∀ record ∈ records, exactAfter plannedAttempt after record = none) :
    deriveLatestIndexedExecutorEvidence source plannedAttempt after = none := by
  have none_ : ∀ kind ∈ reportingKinds,
      indexedEvidenceCandidate source plannedAttempt kind after = none := by
    intro kind reporting
    rw [← Option.not_isSome_iff_eq_none]
    intro found
    obtain ⟨evidence, found⟩ := Option.isSome_iff_exists.mp found
    obtain ⟨record, member, _, given⟩ := exact_of_candidate presents increasing reporting found
    rw [unreported record member] at given
    cases given
  have observed : (observedKinds.filterMap fun kind =>
      indexedEvidenceCandidate source plannedAttempt kind after) = [] :=
    List.filterMap_eq_nil_iff.mpr fun kind member => none_ kind (List.mem_cons_of_mem _ member)
  simp only [deriveLatestIndexedExecutorEvidence, observed, none_ _ List.mem_cons_self,
    latestObserved, Option.toList_none, List.append_nil, List.mergeSort_nil, List.getLast?_nil,
    preferredExactExecutorEvidence, unlessLaterIssue, Option.bind_eq_bind, Option.bind_none]

theorem listed_eq_none
    (unreported : ∀ record ∈ records, exactAfter plannedAttempt after record = none) :
    deriveLatestExecutorEvidence (.raw records) plannedAttempt after = none := by
  have empty : plannedAttemptExecutorEvidence (.raw records) plannedAttempt after = [] :=
    List.filterMap_eq_nil_iff.mpr unreported
  simp only [deriveLatestExecutorEvidence, empty, findLast, List.reverse_nil, List.find?_nil,
    preferredExactExecutorEvidence, unlessLaterIssue, Option.bind_eq_bind, Option.bind_none]

theorem LastExact.latestObserved_eq (ordered : OrderedEvidence records plannedAttempt)
    (presents : Presents source records)
    (last : LastExact records plannedAttempt after record evidence)
    (current : ∀ issue ∈ records, showsIssueFor plannedAttempt issue = true →
      issue.position ≤ record.position) {kinds : List WorkflowJournalEventTag}
    (reporting : ∀ kind ∈ kinds, kind ∈ reportingKinds) (listed : record.event.tag ∈ kinds) :
    latestObserved (kinds.filterMap fun kind =>
      indexedEvidenceCandidate source plannedAttempt kind after) = some evidence := by
  have increasing := ordered.increasing
  obtain ⟨late, found⟩ := exactAfter_eq_some.mp last.found
  have concerned := ordered.concerned record last.member (by rw [found]; rfl)
  have drawn : ∀ candidate ∈ kinds.filterMap fun kind =>
      indexedEvidenceCandidate source plannedAttempt kind after,
      ∃ other ∈ records, exactAfter plannedAttempt after other = some candidate := by
    intro candidate member
    obtain ⟨kind, asked, shown⟩ := List.mem_filterMap.mp member
    obtain ⟨other, inside, _, given⟩ :=
      exact_of_candidate presents increasing (reporting kind asked) shown
    exact ⟨other, inside, given⟩
  refine latestObserved_eq_some ?_ ?_ ?_
  · rw [List.mem_filterMap]
    refine ⟨record.event.tag, listed, Option.bind_eq_some_iff.mpr ⟨record, ?_, found⟩⟩
    refine (presents.lastOfKindAfter_eq_some increasing (reporting _ listed)).mpr
      ⟨last.member, rfl, concerned, late, fun other member same about => ?_⟩
    by_contra behind
    have behind := Nat.lt_of_not_le behind
    have issue := last.issue_behind ordered member (by rw [same]; exact reporting _ listed) about behind
    exact absurd (current other member (ordered.issues other member about issue))
      (Nat.not_le.mpr behind)
  · intro candidate member
    obtain ⟨other, inside, given⟩ := drawn candidate member
    rw [observedAt_of_exactAfter given, observedAt_of_exactAfter last.found]
    exact last.latest other inside candidate given
  · intro candidate member same
    obtain ⟨other, inside, given⟩ := drawn candidate member
    rw [observedAt_of_exactAfter given, observedAt_of_exactAfter last.found] at same
    rw [increasing.eq_of_position inside last.member same, last.found, Option.some.injEq] at given
    exact given.symm

theorem unlessLaterIssue_eq_none {preferred latest : Option PlannedAttemptExecutorEvidence}
    {issue : Option JournalPosition}
    (behind : ∀ exact_, latest = some exact_ → ∃ position, issue = some position ∧
      exact_.observedAt ≤ position) : unlessLaterIssue preferred latest issue = none := by
  cases latest with
  | none => cases preferred <;> rfl
  | some exact_ =>
      obtain ⟨position, rfl, through⟩ := behind exact_ rfl
      cases preferred with
      | none => rfl
      | some evidence =>
          simp only [unlessLaterIssue, Option.bind_eq_bind, Option.bind_some, Option.all_some,
            decide_eq_true_eq]
          exact if_neg (Nat.not_lt.mpr through)

theorem unlessLaterIssue_eq_self {preferred : Option PlannedAttemptExecutorEvidence}
    {issue : Option JournalPosition}
    (earlier : ∀ position, issue = some position → position < evidence.observedAt) :
    unlessLaterIssue preferred (some evidence) issue = preferred := by
  have stands : (issue.all fun position => evidence.observedAt > position) = true := by
    cases issue with
    | none => rfl
    | some position => exact decide_eq_true (earlier position rfl)
  cases preferred with
  | none => rfl
  | some chosen =>
      simp only [unlessLaterIssue, Option.bind_eq_bind, Option.bind_some]
      exact if_pos stands

theorem preferred_of_earlier {observed : Option PlannedAttemptExecutorEvidence}
    (earlier : ∀ other, observed = some other → other.observedAt ≤ evidence.observedAt) :
    preferredExactExecutorEvidence (some evidence) observed = some evidence := by
  cases observed with
  | none => rfl
  | some other =>
      have through := earlier other rfl
      simp [preferredExactExecutorEvidence, Nat.not_lt.mpr through]

theorem mem_of_latestObserved {candidates : List PlannedAttemptExecutorEvidence}
    (found : latestObserved candidates = some evidence) : evidence ∈ candidates :=
  List.mem_mergeSort.mp (List.mem_of_getLast? found)

theorem reportingCandidates (candidate : WorkflowJournalEventTag →
    Option PlannedAttemptExecutorEvidence) :
    (candidate .plannedAttemptExecutorWorkReported).toList ++ observedKinds.filterMap candidate =
      reportingKinds.filterMap candidate := by
  rw [reportingKinds, List.filterMap_cons]
  cases candidate .plannedAttemptExecutorWorkReported <;> rfl

theorem LastExact.candidate_le (ordered : OrderedEvidence records plannedAttempt)
    (presents : Presents source records)
    (last : LastExact records plannedAttempt after record evidence)
    {kinds : List WorkflowJournalEventTag} (reporting : ∀ kind ∈ kinds, kind ∈ reportingKinds)
    {latest : PlannedAttemptExecutorEvidence}
    (found : latestObserved (kinds.filterMap fun kind =>
      indexedEvidenceCandidate source plannedAttempt kind after) = some latest) :
    latest.observedAt ≤ evidence.observedAt := by
  obtain ⟨kind, asked, shown⟩ := List.mem_filterMap.mp (mem_of_latestObserved found)
  obtain ⟨other, inside, _, given⟩ :=
    exact_of_candidate presents ordered.increasing (reporting kind asked) shown
  rw [observedAt_of_exactAfter given, observedAt_of_exactAfter last.found]
  exact last.latest other inside latest given

def issueKinds : List WorkflowJournalEventTag :=
  [.plannedAttemptExecutorCommandProjectionObserved, .plannedAttemptExecutorStateObserved]

def indexedIssues (source : JournalHistorySource) (plannedAttempt : PlannedTaskAttempt)
    (after : Option JournalPosition) : List JournalPosition :=
  issueKinds.filterMap fun kind =>
    ((lastOfKindAfter source plannedAttempt kind after).filter fun record =>
      projectionShowsIssue record.event).map (·.position)

variable (ordered : OrderedEvidence records plannedAttempt) (presents : Presents source records)
include ordered presents

theorem LastExact.indexed_behind (last : LastExact records plannedAttempt after record evidence)
    {issue : JournalRecord} (member : issue ∈ records)
    (shows : showsIssueFor plannedAttempt issue = true) (behind : record.position < issue.position)
    :
    ∃ position, (indexedIssues source plannedAttempt after).max? = some position ∧
      record.position < position := by
  have increasing := ordered.increasing
  obtain ⟨late, _⟩ := exactAfter_eq_some.mp last.found
  obtain ⟨kind, concerned⟩ := reporting_of_issue shows
  have reporting : issue.event.tag ∈ reportingKinds := by
    rcases List.mem_cons.mp kind with same | same
    · rw [same]; decide
    · rw [List.mem_singleton.mp same]; decide
  obtain ⟨final, found, through⟩ := presents.exists_lastOfKindAfter increasing reporting member
    concerned (late_of_le (Nat.le_of_lt behind) late)
  obtain ⟨inside, same, about, _, _⟩ :=
    (presents.lastOfKindAfter_eq_some increasing reporting).mp found
  have after_ : record.position < final.position := Nat.lt_of_lt_of_le behind through
  have still := last.issue_behind ordered inside (by rw [same]; exact reporting) about after_
  have listed : final.position ∈ indexedIssues source plannedAttempt after := by
    rw [indexedIssues, List.mem_filterMap]
    exact ⟨issue.event.tag, kind, by rw [found, Option.filter_some, still]; rfl⟩
  obtain ⟨position, greatest⟩ := Option.isSome_iff_exists.mp
    (List.isSome_max?_of_mem listed)
  exact ⟨position, greatest,
    Nat.lt_of_lt_of_le after_ ((List.max?_eq_some_iff.mp greatest).2 _ listed)⟩

theorem issue_of_indexed {position : JournalPosition}
    (listed : position ∈ indexedIssues source plannedAttempt after) :
    ∃ issue ∈ records, showsIssueFor plannedAttempt issue = true ∧ issue.position = position := by
  obtain ⟨kind, asked, found⟩ := List.mem_filterMap.mp listed
  obtain ⟨issue, kept, rfl⟩ := Option.map_eq_some_iff.mp found
  obtain ⟨last, shows⟩ := Option.filter_eq_some_iff.mp kept
  obtain ⟨member, _, concerned, _⟩ :=
    (presents.lastOfKindAfter_eq_some ordered.increasing (List.mem_cons_of_mem _
      (List.mem_cons_of_mem _ asked))).mp last
  exact ⟨issue, member, ordered.issues issue member concerned shows, rfl⟩

theorem LastExact.preferred_eq (last : LastExact records plannedAttempt after record evidence)
    (current : ∀ issue ∈ records, showsIssueFor plannedAttempt issue = true →
      issue.position ≤ record.position) :
    preferredExactExecutorEvidence
        (findLast (records.filterMap (exactAfter plannedAttempt after)) (·.isAccepted))
        (latestObserved (observedKinds.filterMap fun kind =>
          indexedEvidenceCandidate source plannedAttempt kind after)) =
      preferredExactExecutorEvidence
        (findLast (records.filterMap (exactAfter plannedAttempt after)) (·.isAccepted))
        (findLast (records.filterMap (exactAfter plannedAttempt after))
          fun evidence => !evidence.isAccepted) := by
  have observing : ∀ kind ∈ observedKinds, kind ∈ reportingKinds :=
    fun kind asked => List.mem_cons_of_mem _ asked
  have selected : ∀ test : PlannedAttemptExecutorEvidence → Bool, test evidence = true →
      findLast (records.filterMap (exactAfter plannedAttempt after)) test = some evidence :=
    fun test selects => (findLast_exact_eq_some ordered.increasing test).mpr
      ⟨record, last.member, last.found, selects, fun other listed also given _ =>
        last.latest other listed also given⟩
  obtain ⟨reporting, kind⟩ := reporting_of_evidence (exactAfter_eq_some.mp last.found).2
  cases accepted : evidence.isAccepted with
  | true =>
      rw [selected _ accepted, preferred_of_earlier, preferred_of_earlier]
      · intro other shown
        obtain ⟨earlier, inside, given, _⟩ :=
          (findLast_exact_eq_some ordered.increasing _).mp shown
        rw [observedAt_of_exactAfter given, observedAt_of_exactAfter last.found]
        exact last.latest earlier inside other given
      · intro other shown
        exact last.candidate_le ordered presents observing shown
  | false =>
      have observed : record.event.tag ∈ observedKinds := by
        refine (List.mem_cons.mp reporting).resolve_left fun same => ?_
        rw [kind.mpr same] at accepted
        cases accepted
      rw [last.latestObserved_eq ordered presents current observing observed,
        selected (fun evidence => !evidence.isAccepted) (by rw [accepted]; rfl)]

/-- A fold of the whole list and the last record of each kind give the same current evidence. -/
theorem deriveLatest_eq :
    deriveLatestIndexedExecutorEvidence source plannedAttempt after =
      deriveLatestExecutorEvidence (.raw records) plannedAttempt after := by
  have increasing := ordered.increasing
  have whole : (records.filterMap (exactAfter plannedAttempt after)).getLast? =
      findLast (records.filterMap (exactAfter plannedAttempt after)) fun _ => true := by
    rw [findLast_eq_filter, List.filter_true]
  cases exact_ : findLast (records.filterMap (exactAfter plannedAttempt after)) fun _ => true with
  | none =>
      have unreported : ∀ record ∈ records, exactAfter plannedAttempt after record = none := by
        rw [← whole] at exact_
        exact List.filterMap_eq_nil_iff.mp (List.getLast?_eq_none_iff.mp exact_)
      rw [indexed_eq_none presents increasing unreported, listed_eq_none unreported]
  | some evidence =>
      obtain ⟨record, member, found, _, latest⟩ := (findLast_exact_eq_some increasing _).mp exact_
      have last : LastExact records plannedAttempt after record evidence :=
        ⟨member, found, fun other listed also given => latest other listed also given rfl⟩
      have observedAt := observedAt_of_exactAfter found
      have issue_lt : (∀ issue ∈ records, showsIssueFor plannedAttempt issue = true →
          issue.position ≤ record.position) → ∀ issue ∈ records,
            showsIssueFor plannedAttempt issue = true → issue.position < evidence.observedAt := by
        intro current issue listed shows
        rw [observedAt]
        refine Nat.lt_of_le_of_ne (current issue listed shows) fun same => ?_
        have given := (exactAfter_eq_some.mp found).2
        rw [← increasing.eq_of_position listed member same,
          unreported_of_issue (Bool.and_eq_true_iff.mp shows).1] at given
        cases given
      have indexed : deriveLatestIndexedExecutorEvidence source plannedAttempt after =
          unlessLaterIssue
            (preferredExactExecutorEvidence
              (findLast (records.filterMap (exactAfter plannedAttempt after)) (·.isAccepted))
              (latestObserved (observedKinds.filterMap fun kind =>
                indexedEvidenceCandidate source plannedAttempt kind after)))
            (latestObserved (reportingKinds.filterMap fun kind =>
              indexedEvidenceCandidate source plannedAttempt kind after))
            (indexedIssues source plannedAttempt after).max? := by
        rw [← accepted_eq ordered presents, ← reportingCandidates]
        rfl
      have listed : deriveLatestExecutorEvidence (.raw records) plannedAttempt after =
          unlessLaterIssue
            (preferredExactExecutorEvidence
              (findLast (records.filterMap (exactAfter plannedAttempt after)) (·.isAccepted))
              (findLast (records.filterMap (exactAfter plannedAttempt after))
                fun evidence => !evidence.isAccepted))
            (some evidence)
            ((findLast records (showsIssueFor plannedAttempt)).map (·.position)) := by
        rw [← exact_, ← whole]
        rfl
      rw [indexed, listed]
      by_cases current : ∀ issue ∈ records, showsIssueFor plannedAttempt issue = true →
          issue.position ≤ record.position
      · rw [last.latestObserved_eq ordered presents current (fun _ asked => asked)
            (reporting_of_evidence (exactAfter_eq_some.mp found).2).1,
          unlessLaterIssue_eq_self, unlessLaterIssue_eq_self]
        · exact last.preferred_eq ordered presents current
        · intro position greatest
          obtain ⟨issue, shown, rfl⟩ := Option.map_eq_some_iff.mp greatest
          obtain ⟨inside, shows⟩ := mem_of_findLast shown
          exact issue_lt current issue inside shows
        · intro position greatest
          obtain ⟨issue, inside, shows, rfl⟩ :=
            issue_of_indexed ordered presents (List.max?_mem greatest)
          exact issue_lt current issue inside shows
      · simp only [not_forall, Nat.not_le, exists_prop] at current
        obtain ⟨issue, inside, shows, behind⟩ := current
        obtain ⟨position, greatest, reaches⟩ := last.indexed_behind ordered presents inside shows behind
        rw [unlessLaterIssue_eq_none, unlessLaterIssue_eq_none]
        · intro latest same
          cases same
          obtain ⟨final, _, shown, _, through⟩ := exists_findLast (showsIssueFor plannedAttempt)
            increasing inside shows
          refine ⟨final.position, by rw [shown]; rfl, ?_⟩
          rw [observedAt]
          exact Nat.le_of_lt (Nat.lt_of_lt_of_le behind through)
        · intro latest shown
          refine ⟨position, greatest, Nat.le_trans
            (last.candidate_le ordered presents (fun _ asked => asked) shown) ?_⟩
          rw [observedAt]
          exact Nat.le_of_lt reaches

end

end Dalph
