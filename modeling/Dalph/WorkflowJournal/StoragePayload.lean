import Dalph.Foundation.Json

/-!
# Storage form of an event payload

Two copies are left out of a stored payload and rebuilt on reading: the plan of a completion claim,
which its promotion carries as well, and the claim of a deletion event, which its success
observation carries as well.  A payload with nothing to leave out is stored as it is; otherwise the
compact form is wrapped in a tagged envelope.
-/

namespace Dalph

/-- Names the event variant duplicated in the physical row. -/
structure JournalEventKind where
  value : String
deriving DecidableEq

open Json

def field (value : Option Json) (key : String) : Option Json :=
  match value with
  | some (.obj fields) => fields.lookup key
  | _ => none

def promotionPlan (claim : Fields) : Option Json :=
  field (field (field (field (claim.lookup "promotionCorrelation") "qualifiedCandidate") "run")
    "session") "plannedAttempt"

def sameCopy (left right : Option Json) : Bool :=
  match left, right with
  | some left, some right => left.stringify = right.stringify
  | _, _ => false

def isCompletionTaskClaim (fields : Fields) : Bool :=
  match fields.lookup "_tag" with
  | some (.str tag) => tag = "CompletionTaskClaim"
  | _ => false

def hasSuccessClaimCopy (kind : JournalEventKind) : Bool :=
  kind.value = "CompletionClaimDeletionIntended" ||
  kind.value = "CompletionClaimDeletionAttemptIntended" ||
  kind.value = "CompletionClaimDeleted" ||
  kind.value = "IntegrationFinalitySettled"

def planIsCopied (fields : Fields) : Bool :=
  isCompletionTaskClaim fields && sameCopy (fields.lookup "plannedAttempt") (promotionPlan fields)

mutual

/-- Leave out the plan of every claim whose promotion carries the same plan.  The decision is taken
on the full object, before its fields are compacted. -/
def compactValue : Json → Json
  | .arr items => .arr (compactItems items)
  | .obj fields =>
      .obj (if planIsCopied fields then without (compactFields fields) "plannedAttempt"
        else compactFields fields)
  | value => value

def compactItems : List Json → List Json
  | [] => []
  | item :: rest => compactValue item :: compactItems rest

def compactFields : Fields → Fields
  | [] => []
  | (key, value) :: rest => (key, compactValue value) :: compactFields rest

end

def restorePlan (fields : Fields) : Fields :=
  match isCompletionTaskClaim fields, fields.lookup "plannedAttempt", promotionPlan fields with
  | true, none, some plan => setField fields "plannedAttempt" plan
  | _, _, _ => fields

mutual

def expandValue : Json → Json
  | .arr items => .arr (expandItems items)
  | .obj fields => .obj (restorePlan (expandFields fields))
  | value => value

def expandItems : List Json → List Json
  | [] => []
  | item :: rest => expandValue item :: expandItems rest

def expandFields : Fields → Fields
  | [] => []
  | (key, value) :: rest => (key, expandValue value) :: expandFields rest

end

def compactClaim (payload : Fields) : Fields :=
  if sameCopy (payload.lookup "claim") (field (payload.lookup "successObservation") "claim") then
    without payload "claim"
  else payload

def expandClaim (payload : Fields) : Fields :=
  match payload.lookup "claim", field (payload.lookup "successObservation") "claim" with
  | none, some claim => setField payload "claim" claim
  | _, _ => payload

/-- The copy that the event's own shape makes redundant. -/
def withoutOuterCopy (kind : JournalEventKind) (payload : Fields) : Fields :=
  if hasSuccessClaimCopy kind then compactClaim payload
  else if kind.value = "CompletionClaimDeletionReadObserved" then
    match payload.lookup "request" with
    | some (.obj request) => setField payload "request" (.obj (compactClaim request))
    | _ => payload
  else payload

/-- Restore the copy that the event's own shape makes redundant. -/
def restoreOuterCopy (kind : JournalEventKind) (expanded : Fields) : Fields :=
  if hasSuccessClaimCopy kind then expandClaim expanded
  else if kind.value = "CompletionClaimDeletionReadObserved" then
    match expanded.lookup "request" with
    | some (.obj request) => setField expanded "request" (.obj (expandClaim request))
    | _ => expanded
  else expanded

def compactPayloadTag : String := "DalphJournalCompactPayloadV1"

def encodeJournalStoragePayload (kind : JournalEventKind) (payload : Fields) : String :=
  let compact := compactValue (.obj (withoutOuterCopy kind payload))
  let fullJson := stringify (.obj payload)
  if stringify compact = fullJson then fullJson
  else stringify (.obj [("_tag", .str compactPayloadTag), ("payload", compact)])

/-- Contents of a compact envelope with no other field. -/
def decodeCompactPayload (payload : Fields) : Option Fields :=
  match payload.lookup "_tag", payload.lookup "payload" with
  | some (.str tag), some (.obj fields) =>
      if tag = compactPayloadTag ∧
          payload.all (fun field => field.1 = "_tag" ∨ field.1 = "payload") then some fields
      else none
  | _, _ => none

/-- Payload of a stored object.  An untagged object is the payload itself. -/
def decodeJournalStoragePayload (kind : JournalEventKind) (payload : Fields) : Option Fields :=
  match payload.lookup "_tag" with
  | none => some payload
  | some _ => do
      let compact ← decodeCompactPayload payload
      match expandValue (.obj compact) with
      | .obj expanded => some (restoreOuterCopy kind expanded)
      | _ => none

/-- A value inside an encoded event: keys are distinct and every completion claim has a plan. -/
inductive EncodedValue : Json → Prop
  | null : EncodedValue .null
  | bool (value : Bool) : EncodedValue (.bool value)
  | num (value : Int) : EncodedValue (.num value)
  | str (value : String) : EncodedValue (.str value)
  | arr {items : List Json} (encoded : ∀ item ∈ items, EncodedValue item) :
      EncodedValue (.arr items)
  | obj {fields : Fields} (distinct : (fields.map Prod.fst).Nodup)
      (planned : isCompletionTaskClaim fields = true → fields.lookup "plannedAttempt" ≠ none)
      (encoded : ∀ field ∈ fields, EncodedValue field.2) : EncodedValue (.obj fields)

/-- The encoded payload of an event of one kind.  The tag of the event is not part of its payload,
and the events that repeat their claim always have one. -/
structure EncodedPayload (kind : JournalEventKind) (payload : Fields) : Prop where
  encoded : EncodedValue (.obj payload)
  untagged : payload.lookup "_tag" = none
  claimed : hasSuccessClaimCopy kind = true → payload.lookup "claim" ≠ none
  requested : kind.value = "CompletionClaimDeletionReadObserved" →
    ∃ request, payload.lookup "request" = some (.obj request) ∧
      isCompletionTaskClaim request = false ∧ request.lookup "claim" ≠ none

theorem EncodedValue.wellFormed {value : Json} (encoded : EncodedValue value) :
    WellFormed value := by
  induction encoded with
  | null => exact .null
  | bool value => exact .bool value
  | num value => exact .num value
  | str value => exact .str value
  | arr _ ih => exact .arr ih
  | obj distinct _ _ ih => exact .obj distinct ih

namespace EncodedValue

variable {fields : Fields}

section

variable (encoded : EncodedValue (.obj fields))
include encoded

theorem distinct : (fields.map Prod.fst).Nodup := by
  cases encoded with
  | obj distinct _ _ => exact distinct

theorem of_mem {field : String × Json} (member : field ∈ fields) : EncodedValue field.2 := by
  cases encoded with
  | obj _ _ values => exact values field member

theorem of_lookup {key : String} {value : Json} (found : fields.lookup key = some value) :
    EncodedValue value :=
  encoded.of_mem (mem_of_lookup found)

theorem planned (claim : isCompletionTaskClaim fields = true) :
    fields.lookup "plannedAttempt" ≠ none := by
  cases encoded with
  | obj _ planned _ => exact planned claim

end

theorem of_field {value : Option Json} (encoded : ∀ content ∈ value, EncodedValue content)
    (key : String) : ∀ content ∈ field value key, EncodedValue content := by
  intro content found
  match value, encoded, found with
  | some (.obj fields), encoded, found => exact (encoded _ rfl).of_lookup found

end EncodedValue

theorem eq_of_sameCopy {left right : Option Json} (same : sameCopy left right = true)
    (leftEncoded : ∀ value ∈ left, EncodedValue value)
    (rightEncoded : ∀ value ∈ right, EncodedValue value) :
    ∃ value, left = some value ∧ right = some value := by
  match left, right, same with
  | some left, some right, same =>
      have equal : left = right :=
        stringify_injective (leftEncoded left rfl).wellFormed (rightEncoded right rfl).wellFormed
          (of_decide_eq_true same)
      exact ⟨left, rfl, congrArg some equal.symm⟩

def restore (value : Json) : Json :=
  expandValue (compactValue value)

def restoreField (field : String × Json) : String × Json :=
  (field.1, restore field.2)

theorem compactFields_eq_map (fields : Fields) :
    compactFields fields = fields.map fun field => (field.1, compactValue field.2) := by
  induction fields with
  | nil => rw [compactFields, List.map_nil]
  | cons field fields ih => rw [compactFields, ih, List.map_cons]

theorem expandFields_eq_map (fields : Fields) :
    expandFields fields = fields.map fun field => (field.1, expandValue field.2) := by
  induction fields with
  | nil => rw [expandFields, List.map_nil]
  | cons field fields ih => rw [expandFields, ih, List.map_cons]

theorem compactItems_eq_map (items : List Json) : compactItems items = items.map compactValue := by
  induction items with
  | nil => rw [compactItems, List.map_nil]
  | cons item items ih => rw [compactItems, ih, List.map_cons]

theorem expandItems_eq_map (items : List Json) : expandItems items = items.map expandValue := by
  induction items with
  | nil => rw [expandItems, List.map_nil]
  | cons item items ih => rw [expandItems, ih, List.map_cons]

theorem restore_arr (items : List Json) : restore (.arr items) = .arr (items.map restore) := by
  simp only [restore, compactValue, expandValue, compactItems_eq_map, expandItems_eq_map,
    List.map_map]
  rfl

def retained (fields : Fields) : Fields :=
  if planIsCopied fields then without fields "plannedAttempt" else fields

theorem without_map (transform : Json → Json) (fields : Fields) (key : String) :
    without (fields.map fun field => (field.1, transform field.2)) key =
      (without fields key).map fun field => (field.1, transform field.2) := by
  simp only [without, List.filter_map]
  rfl

theorem restore_obj (fields : Fields) :
    restore (.obj fields) = .obj (restorePlan ((retained fields).map restoreField)) := by
  simp only [restore, compactValue, expandValue, compactFields_eq_map, expandFields_eq_map,
    without_map, retained]
  split <;> simp only [List.map_map] <;> rfl

@[simp]
theorem lookup_restoreField (fields : Fields) (key : String) :
    (fields.map restoreField).lookup key = (fields.lookup key).map restore :=
  lookup_map restore fields key

theorem isCompletionTaskClaim_congr {left right : Fields}
    (same : right.lookup "_tag" = (left.lookup "_tag").map restore) :
    isCompletionTaskClaim right = isCompletionTaskClaim left := by
  unfold isCompletionTaskClaim
  rw [same]
  cases left.lookup "_tag" with
  | none => rfl
  | some tag =>
      cases tag <;> simp [restore, compactValue, expandValue]

variable {fields : Fields}

theorem restorePlan_of_planned
    (planned : isCompletionTaskClaim fields = true → fields.lookup "plannedAttempt" ≠ none) :
    restorePlan fields = fields := by
  unfold restorePlan
  split
  · rename_i claim missing _
    exact absurd missing (planned claim)
  · rfl

theorem restorePlan_of_missing {plan : Json} (claim : isCompletionTaskClaim fields = true)
    (missing : fields.lookup "plannedAttempt" = none) (promoted : promotionPlan fields = some plan)
    : restorePlan fields = fields ++ [("plannedAttempt", plan)] := by
  simp only [restorePlan, claim, missing, promoted]
  exact setField_of_not_mem (lookup_eq_none_iff.mp missing) plan

theorem restore_obj_of_not_copied (encoded : EncodedValue (.obj fields))
    (kept : planIsCopied fields = false) :
    restore (.obj fields) = .obj (fields.map restoreField) := by
  rw [restore_obj, retained, if_neg (by simp [kept]), restorePlan_of_planned]
  intro claim
  rw [isCompletionTaskClaim_congr (lookup_restoreField fields "_tag")] at claim
  simpa using encoded.planned claim

theorem promotionPlan_encoded (encoded : EncodedValue (.obj fields)) :
    ∀ plan ∈ promotionPlan fields, EncodedValue plan := by
  unfold promotionPlan
  apply EncodedValue.of_field
  apply EncodedValue.of_field
  apply EncodedValue.of_field
  apply EncodedValue.of_field
  intro value found
  exact encoded.of_lookup found

def LookupRestores (value : Json) : Prop :=
  ∀ key, field (some (restore value)) key = (field (some value) key).map restore

def SmallEncoded (bound : Nat) (value : Option Json) : Prop :=
  ∀ content ∈ value, sizeOf content < bound ∧ EncodedValue content

theorem SmallEncoded.field {bound : Nat} {value : Option Json} (small : SmallEncoded bound value)
    (key : String) : SmallEncoded bound (Dalph.field value key) := by
  intro content found
  match value, small, found with
  | some (.obj fields), small, found =>
      obtain ⟨bounded, encoded⟩ := small _ rfl
      exact ⟨Nat.lt_trans (sizeOf_lt_of_lookup found) bounded, encoded.of_lookup found⟩

section Bounded

variable {bound : Nat}
  (smaller : ∀ value, sizeOf value < bound → EncodedValue value → LookupRestores value)

include smaller

theorem field_map_restore {value : Option Json} (small : SmallEncoded bound value)
    (key : String) : field (value.map restore) key = (field value key).map restore := by
  cases value with
  | none => rfl
  | some value =>
      obtain ⟨bounded, encoded⟩ := small value rfl
      exact smaller value bounded encoded key

theorem promotionPlan_restore {before after : Fields}
    (promotion : after.lookup "promotionCorrelation" =
      (before.lookup "promotionCorrelation").map restore)
    (small : SmallEncoded bound (before.lookup "promotionCorrelation")) :
    promotionPlan after = (promotionPlan before).map restore := by
  simp only [promotionPlan, promotion, field_map_restore smaller small,
    field_map_restore smaller (small.field _), field_map_restore smaller ((small.field _).field _),
    field_map_restore smaller (((small.field _).field _).field _)]

theorem restore_obj_of_copied {fields : Fields} (bounded : sizeOf (Json.obj fields) ≤ bound)
    (encoded : EncodedValue (.obj fields)) (copied : planIsCopied fields = true) :
    ∃ plan, fields.lookup "plannedAttempt" = some plan ∧
      restore (.obj fields) =
        .obj ((without fields "plannedAttempt").map restoreField ++
          [("plannedAttempt", restore plan)]) := by
  obtain ⟨claim, same⟩ := Bool.and_eq_true_iff.mp copied
  obtain ⟨plan, present, promoted⟩ :=
    eq_of_sameCopy same (fun value found => encoded.of_lookup found) (promotionPlan_encoded encoded)
  refine ⟨plan, present, ?_⟩
  have small : SmallEncoded bound (fields.lookup "promotionCorrelation") := by
    intro content found
    exact ⟨Nat.lt_of_lt_of_le (sizeOf_lt_of_lookup found) bounded, encoded.of_lookup found⟩
  have others : ∀ key, key ≠ "plannedAttempt" →
      ((without fields "plannedAttempt").map restoreField).lookup key =
        (fields.lookup key).map restore := by
    intro key different
    rw [lookup_restoreField, lookup_without_of_ne fields different]
  rw [restore_obj, retained, if_pos copied, restorePlan_of_missing]
  · exact (isCompletionTaskClaim_congr (others "_tag" (by decide))).trans claim
  · rw [lookup_restoreField, lookup_without_self]
    rfl
  · rw [promotionPlan_restore smaller (others "promotionCorrelation" (by decide)) small, promoted]
    rfl

end Bounded

theorem lookupRestores (value : Json) (encoded : EncodedValue value) : LookupRestores value := by
  induction size : sizeOf value using Nat.strongRecOn generalizing value with
  | ind bound ih =>
      have smaller : ∀ other, sizeOf other < sizeOf value → EncodedValue other →
          LookupRestores other := by
        intro other bounded otherEncoded
        exact ih (sizeOf other) (size ▸ bounded) other otherEncoded rfl
      cases value with
      | obj fields =>
          intro key
          cases copied : planIsCopied fields with
          | false =>
              rw [restore_obj_of_not_copied encoded copied]
              exact lookup_restoreField fields key
          | true =>
              obtain ⟨plan, present, restored⟩ :=
                restore_obj_of_copied smaller (Nat.le_refl _) encoded copied
              rw [restored]
              simp only [field, lookup_append, lookup_restoreField]
              by_cases planned : key = "plannedAttempt"
              · subst planned
                simp [lookup_without_self, present]
              · simp [lookup_without_of_ne fields planned, List.lookup_cons,
                  beq_false_of_ne planned]
      | null => intro key; rfl
      | bool value => intro key; rfl
      | num value => intro key; rfl
      | str value => intro key; rfl
      | arr items => intro key; rw [restore_arr]; rfl

theorem restore_equivalent {value : Json} (encoded : EncodedValue value) :
    Equivalent (restore value) value := by
  induction encoded with
  | null => exact .refl _
  | bool value => exact .refl _
  | num value => exact .refl _
  | str value => exact .refl _
  | @arr items _ ih =>
      rw [restore_arr]
      apply Equivalent.items
      rw [List.forall₂_map_left_iff, List.forall₂_same]
      exact ih
  | @obj fields distinct planned values ih =>
      have encoded : EncodedValue (.obj fields) := .obj distinct planned values
      cases copied : planIsCopied fields with
      | false =>
          rw [restore_obj_of_not_copied encoded copied]
          exact equivalent_map fun field member => ⟨rfl, ih field member⟩
      | true =>
          obtain ⟨plan, present, restored⟩ :=
            restore_obj_of_copied (fun value _ => lookupRestores value) (Nat.le_refl _) encoded
              copied
          have reordered := without_append_perm distinct present
          have same : (without fields "plannedAttempt").map restoreField ++
              [("plannedAttempt", restore plan)] =
              (without fields "plannedAttempt" ++ [("plannedAttempt", plan)]).map restoreField := by
            rw [List.map_append]
            rfl
          rw [restored, same]
          refine .trans (equivalent_map fun field member => ⟨rfl, ?_⟩) (.order reordered)
          exact ih field (reordered.mem_iff.mp member)

theorem compactClaim_subset {payload : Fields} {field : String × Json}
    (member : field ∈ compactClaim payload) : field ∈ payload := by
  unfold compactClaim at member
  split at member
  · exact (List.mem_filter.mp member).1
  · exact member

theorem compactClaim_encoded {payload : Fields} (encoded : EncodedValue (.obj payload))
    (unclaimed : isCompletionTaskClaim (compactClaim payload) = false) :
    EncodedValue (.obj (compactClaim payload)) := by
  refine .obj ?_ (fun claim => absurd claim (by simp [unclaimed])) ?_
  · unfold compactClaim
    split
    · exact encoded.distinct.sublist (List.filter_sublist.map _)
    · exact encoded.distinct
  · intro field member
    exact encoded.of_mem (compactClaim_subset member)

theorem lookup_compactClaim_of_ne (payload : Fields) {key : String} (different : key ≠ "claim") :
    (compactClaim payload).lookup key = payload.lookup key := by
  unfold compactClaim
  split
  · exact lookup_without_of_ne payload different
  · rfl

theorem expandClaim_equivalent {payload : Fields} (encoded : EncodedValue (.obj payload))
    (claimed : payload.lookup "claim" ≠ none) :
    Equivalent (.obj (expandClaim ((compactClaim payload).map restoreField))) (.obj payload) := by
  have observed : ∀ value ∈ payload.lookup "successObservation", EncodedValue value :=
    fun value found => encoded.of_lookup found
  unfold compactClaim
  split
  · rename_i same
    obtain ⟨claim, present, repeated⟩ := eq_of_sameCopy same
      (fun value found => encoded.of_lookup found) (EncodedValue.of_field observed "claim")
    have missing : ((without payload "claim").map restoreField).lookup "claim" = none := by
      rw [lookup_restoreField, lookup_without_self]
      rfl
    have restored : field (((without payload "claim").map restoreField).lookup
        "successObservation") "claim" = some (restore claim) := by
      rw [lookup_restoreField, lookup_without_of_ne payload (by decide)]
      cases observation : payload.lookup "successObservation" with
      | none => rw [observation] at repeated; cases repeated
      | some observation' =>
          rw [observation] at repeated
          rw [Option.map_some, lookupRestores observation' (observed _ observation), repeated]
          rfl
    have reordered := without_append_perm encoded.distinct present
    have same : expandClaim ((without payload "claim").map restoreField) =
        (without payload "claim" ++ [("claim", claim)]).map restoreField := by
      simp only [expandClaim, missing, restored]
      rw [setField_of_not_mem (lookup_eq_none_iff.mp missing), List.map_append]
      rfl
    rw [same]
    refine .trans (equivalent_map fun field member => ⟨rfl, ?_⟩) (.order reordered)
    exact restore_equivalent (encoded.of_mem (reordered.mem_iff.mp member))
  · have kept : expandClaim (payload.map restoreField) = payload.map restoreField := by
      unfold expandClaim
      split
      · rename_i missing _
        rw [lookup_restoreField, Option.map_eq_none_iff] at missing
        exact absurd missing claimed
      · rfl
    rw [kept]
    exact equivalent_map fun field member => ⟨rfl, restore_equivalent (encoded.of_mem member)⟩

theorem isCompletionTaskClaim_of_untagged (untagged : fields.lookup "_tag" = none) :
    isCompletionTaskClaim fields = false := by
  simp [isCompletionTaskClaim, untagged]

theorem planIsCopied_of_unclaimed (unclaimed : isCompletionTaskClaim fields = false) :
    planIsCopied fields = false := by
  simp [planIsCopied, unclaimed]

theorem compactValue_wellFormed {value : Json} (wellFormed : WellFormed value) :
    WellFormed (compactValue value) := by
  induction wellFormed with
  | null => exact .null
  | bool value => exact .bool value
  | num value => exact .num value
  | str value => exact .str value
  | arr _ ih =>
      rw [compactValue, compactItems_eq_map]
      refine .arr fun item member => ?_
      obtain ⟨original, present, rfl⟩ := List.mem_map.mp member
      exact ih original present
  | @obj fields distinct _ ih =>
      have keys : (compactFields fields).map Prod.fst = fields.map Prod.fst := by
        rw [compactFields_eq_map, List.map_map]
        rfl
      have values : ∀ field ∈ compactFields fields, WellFormed field.2 := by
        intro field member
        rw [compactFields_eq_map] at member
        obtain ⟨original, present, rfl⟩ := List.mem_map.mp member
        exact ih original present
      rw [compactValue]
      split
      · refine .obj ?_ fun field member => values field (List.mem_filter.mp member).1
        exact (keys ▸ distinct : ((compactFields fields).map Prod.fst).Nodup).sublist
          (List.filter_sublist.map _)
      · exact .obj (keys ▸ distinct) values

namespace EncodedPayload

variable {kind : JournalEventKind} {payload : Fields}

section

variable (encoded : EncodedPayload kind payload)
include encoded

theorem withoutOuterCopy_encoded :
    EncodedValue (.obj (withoutOuterCopy kind payload)) ∧
      (withoutOuterCopy kind payload).lookup "_tag" = none := by
  unfold withoutOuterCopy
  split
  · have untagged : (compactClaim payload).lookup "_tag" = none := by
      rw [lookup_compactClaim_of_ne payload (by decide), encoded.untagged]
    exact ⟨compactClaim_encoded encoded.encoded (isCompletionTaskClaim_of_untagged untagged),
      untagged⟩
  · split
    · rename_i readObserved
      obtain ⟨request, found, unclaimed, _⟩ := encoded.requested readObserved
      have requestEncoded := encoded.encoded.of_lookup found
      have compactEncoded : EncodedValue (.obj (compactClaim request)) := by
        apply compactClaim_encoded requestEncoded
        rw [← unclaimed]
        unfold isCompletionTaskClaim
        rw [lookup_compactClaim_of_ne request (by decide)]
      have present := mem_keys_of_lookup found
      rw [found]
      simp only [setField_of_mem encoded.encoded.distinct present]
      have keys : (payload.map fun field =>
          if field.1 = "request" then ("request", Json.obj (compactClaim request)) else field).map
            Prod.fst = payload.map Prod.fst := by
        rw [List.map_map]
        refine List.map_congr_left fun field _ => ?_
        by_cases same : field.1 = "request" <;> simp [same]
      have untagged : (payload.map fun field =>
          if field.1 = "request" then ("request", Json.obj (compactClaim request))
            else field).lookup "_tag" = none := by
        rw [lookup_eq_none_iff, keys, ← lookup_eq_none_iff, encoded.untagged]
      refine ⟨.obj (keys ▸ encoded.encoded.distinct) (fun claim => ?_) ?_, untagged⟩
      · rw [isCompletionTaskClaim_of_untagged untagged] at claim
        cases claim
      · intro field member
        obtain ⟨original, listed, rfl⟩ := List.mem_map.mp member
        by_cases same : original.1 = "request"
        · simpa [same] using compactEncoded
        · simpa [same] using encoded.encoded.of_mem listed
    · exact ⟨encoded.encoded, encoded.untagged⟩

theorem restoreOuterCopy_equivalent :
    Equivalent (.obj (restoreOuterCopy kind ((withoutOuterCopy kind payload).map restoreField)))
      (.obj payload) := by
  unfold restoreOuterCopy withoutOuterCopy
  split
  · rename_i success
    exact expandClaim_equivalent encoded.encoded (encoded.claimed success)
  · split
    · rename_i readObserved
      obtain ⟨request, found, unclaimed, claimed⟩ := encoded.requested readObserved
      have requestEncoded := encoded.encoded.of_lookup found
      have compactUnclaimed : isCompletionTaskClaim (compactClaim request) = false := by
        rw [← unclaimed]
        unfold isCompletionTaskClaim
        rw [lookup_compactClaim_of_ne request (by decide)]
      have restored : restore (.obj (compactClaim request)) =
          .obj ((compactClaim request).map restoreField) :=
        restore_obj_of_not_copied (compactClaim_encoded requestEncoded compactUnclaimed)
          (planIsCopied_of_unclaimed compactUnclaimed)
      have expanded : (setField payload "request" (.obj (compactClaim request))).map restoreField =
          payload.map fun field =>
            if field.1 = "request" then
              ("request", Json.obj ((compactClaim request).map restoreField))
            else restoreField field := by
        rw [setField_of_mem encoded.encoded.distinct (mem_keys_of_lookup found), List.map_map]
        refine List.map_congr_left fun field _ => ?_
        by_cases same : field.1 = "request" <;> simp [same, restoreField, restored]
      have keys : ((setField payload "request" (.obj (compactClaim request))).map
          restoreField).map Prod.fst = payload.map Prod.fst := by
        rw [expanded, List.map_map]
        refine List.map_congr_left fun field _ => ?_
        by_cases same : field.1 = "request" <;> simp [same, restoreField]
      have distinct : (((setField payload "request" (.obj (compactClaim request))).map
          restoreField).map Prod.fst).Nodup := keys ▸ encoded.encoded.distinct
      have lookup : ((setField payload "request" (.obj (compactClaim request))).map
          restoreField).lookup "request" =
            some (.obj ((compactClaim request).map restoreField)) := by
        apply lookup_of_mem distinct
        rw [expanded]
        exact List.mem_map.mpr ⟨_, mem_of_lookup found, by simp⟩
      simp only [found, lookup]
      rw [setField_of_mem distinct (mem_keys_of_lookup lookup), expanded, List.map_map]
      refine equivalent_map fun field member => ?_
      obtain ⟨key, value⟩ := field
      by_cases same : key = "request"
      · subst same
        have content : value = .obj request := by
          rw [lookup_of_mem encoded.encoded.distinct member] at found
          exact Option.some.inj found
        subst content
        simpa using expandClaim_equivalent requestEncoded claimed
      · simpa [same, restoreField] using restore_equivalent (encoded.encoded.of_mem member)
    · exact equivalent_map fun field member =>
        ⟨rfl, restore_equivalent (encoded.encoded.of_mem member)⟩

theorem exists_stored :
    ∃ stored restored,
      encodeJournalStoragePayload kind payload = stringify (.obj stored) ∧
      WellFormed (.obj stored) ∧
      (∀ tag ∈ stored.lookup "_tag", tag = .str compactPayloadTag) ∧
      decodeJournalStoragePayload kind stored = some restored ∧
      Equivalent (.obj restored) (.obj payload) := by
  obtain ⟨outerEncoded, outerUntagged⟩ := encoded.withoutOuterCopy_encoded
  have kept : planIsCopied (withoutOuterCopy kind payload) = false :=
    planIsCopied_of_unclaimed (isCompletionTaskClaim_of_untagged outerUntagged)
  have compact : compactValue (.obj (withoutOuterCopy kind payload)) =
      .obj (compactFields (withoutOuterCopy kind payload)) := by
    rw [compactValue, if_neg (by simp [kept])]
  unfold encodeJournalStoragePayload
  simp only []
  split
  · refine ⟨payload, payload, rfl, encoded.encoded.wellFormed, ?_, ?_, .refl _⟩
    · simp [encoded.untagged]
    · simp [decodeJournalStoragePayload, encoded.untagged]
  · have restored : expandValue (.obj (compactFields (withoutOuterCopy kind payload))) =
        .obj ((withoutOuterCopy kind payload).map restoreField) := by
      rw [← compact]
      exact restore_obj_of_not_copied outerEncoded kept
    refine ⟨_, _, rfl, ?_, ?_, ?_, encoded.restoreOuterCopy_equivalent⟩
    · refine .obj (by simp) fun field member => ?_
      rcases List.mem_pair.mp member with rfl | rfl
      · exact .str _
      · exact compactValue_wellFormed outerEncoded.wellFormed
    · simp
    · rw [compact]
      simp [decodeJournalStoragePayload, decodeCompactPayload, List.lookup, restored]

theorem decode_encode :
    ∃ stored restored,
      parse (encodeJournalStoragePayload kind payload) = some (.obj stored) ∧
      decodeJournalStoragePayload kind stored = some restored ∧
      Equivalent (.obj restored) (.obj payload) := by
  obtain ⟨stored, restored, text, wellFormed, _, decoded, same⟩ := encoded.exists_stored
  exact ⟨stored, restored, text ▸ parse_stringify wellFormed, decoded, same⟩

end

end EncodedPayload

end Dalph
