import Mathlib

/-!
# Composite text keys

A key may join several texts.  A decimal number and a colon at either end can be read back, and so
can the boundary between two texts once the length of the first one is known.  Texts that stand
behind their lengths are therefore read back from any such key.
-/

namespace TextKey

theorem append_cons_inj {Item : Type} {separator : Item} {first first' rest rest' : List Item}
    (absent : separator ∉ first) (absent' : separator ∉ first')
    (same : first ++ separator :: rest = first' ++ separator :: rest') :
    first = first' ∧ rest = rest' := by
  induction first generalizing first' with
  | nil =>
      cases first' with
      | nil => exact ⟨rfl, (List.cons.inj same).2⟩
      | cons item items =>
          exact absurd ((List.cons.inj same).1 ▸ List.mem_cons_self) absent'
  | cons item items induction =>
      cases first' with
      | nil => exact absurd ((List.cons.inj same).1 ▸ List.mem_cons_self) absent
      | cons item' items' =>
          obtain ⟨rfl, tails⟩ := List.cons.inj same
          obtain ⟨rfl, rest⟩ := induction (fun member => absent (List.mem_cons_of_mem _ member))
            (fun member => absent' (List.mem_cons_of_mem _ member)) tails
          exact ⟨rfl, rest⟩

theorem colon_not_mem_toString (number : Nat) : ':' ∉ (toString number).toList := by
  intro member
  have digits : ':' ∈ Nat.toDigits 10 number := by simpa [toString, Nat.repr] using member
  have digit := Nat.isDigit_of_mem_toDigits (by decide) (by decide) digits
  exact absurd digit (by decide)

theorem number_colon_inj {number other : Nat} {rest rest' : String} :
    toString number ++ ":" ++ rest = toString other ++ ":" ++ rest' ↔
      number = other ∧ rest = rest' := by
  refine ⟨fun same => ?_, fun same => by rw [same.1, same.2]⟩
  have texts := congrArg String.toList same
  simp only [String.toList_append, List.append_assoc] at texts
  obtain ⟨digits, rests⟩ := append_cons_inj (colon_not_mem_toString number)
    (colon_not_mem_toString other) texts
  exact ⟨Nat.repr_injective (String.toList_inj.mp digits), String.toList_inj.mp rests⟩

theorem colon_number_inj {number other : Nat} {first first' : String} :
    first ++ ":" ++ toString number = first' ++ ":" ++ toString other ↔
      first = first' ∧ number = other := by
  refine ⟨fun same => ?_, fun same => by rw [same.1, same.2]⟩
  have texts := congrArg (fun text => text.toList.reverse) same
  simp only [String.toList_append, List.reverse_append, List.append_assoc] at texts
  have absent : ∀ number : Nat, ':' ∉ (toString number).toList.reverse := fun number member =>
    colon_not_mem_toString number (List.mem_reverse.mp member)
  obtain ⟨digits, firsts⟩ := append_cons_inj (absent number) (absent other) texts
  exact ⟨String.toList_inj.mp (List.reverse_injective firsts),
    Nat.repr_injective (String.toList_inj.mp (List.reverse_injective digits))⟩

theorem append_inj_of_sum {Item : Type} {weight : Item → Nat} (positive : ∀ item, 0 < weight item)
    {first first' rest rest' : List Item} (same : first ++ rest = first' ++ rest')
    (heavy : (first.map weight).sum = (first'.map weight).sum) :
    first = first' ∧ rest = rest' := by
  induction first generalizing first' with
  | nil =>
      cases first' with
      | nil => exact ⟨rfl, same⟩
      | cons item items =>
          have := positive item
          simp only [List.map_nil, List.sum_nil, List.map_cons, List.sum_cons] at heavy
          omega
  | cons item items induction =>
      cases first' with
      | nil =>
          have := positive item
          simp only [List.map_nil, List.sum_nil, List.map_cons, List.sum_cons] at heavy
          omega
      | cons item' items' =>
          rw [List.cons_append, List.cons_append, List.cons.injEq] at same
          obtain ⟨rfl, same⟩ := same
          simp only [List.map_cons, List.sum_cons, Nat.add_left_cancel_iff] at heavy
          obtain ⟨rfl, rest⟩ := induction same heavy
          exact ⟨rfl, rest⟩

def measure (weight : Char → Nat) (text : String) : Nat :=
  (text.toList.map weight).sum

def prefixed (weight : Char → Nat) (text : String) : String :=
  toString (measure weight text) ++ ":" ++ text

variable {weight : Char → Nat}

theorem prefixed_append_inj (positive : ∀ char, 0 < weight char) {text text' rest rest' : String} :
    prefixed weight text ++ rest = prefixed weight text' ++ rest' ↔ text = text' ∧ rest = rest' := by
  refine ⟨fun same => ?_, fun same => by rw [same.1, same.2]⟩
  have same : toString (measure weight text) ++ ":" ++ (text ++ rest) =
      toString (measure weight text') ++ ":" ++ (text' ++ rest') := by
    rw [← String.append_assoc, ← String.append_assoc]
    exact same
  obtain ⟨heavy, texts⟩ := number_colon_inj.mp same
  have lists := congrArg String.toList texts
  rw [String.toList_append, String.toList_append] at lists
  obtain ⟨first, second⟩ := append_inj_of_sum positive lists heavy
  exact ⟨String.toList_inj.mp first, String.toList_inj.mp second⟩

theorem prefixed_ne_empty {text : String} : prefixed weight text ≠ "" := by
  intro empty
  have colon : ':' ∈ (prefixed weight text).toList := by simp [prefixed]
  rw [empty] at colon
  exact absurd colon (by decide)

theorem intercalate_cons {separator text : String} {texts : List String} :
    ∃ tail, String.intercalate separator (text :: texts) = text ++ tail ∧
      (tail = "" ∧ texts = [] ∨
        texts ≠ [] ∧ tail = separator ++ String.intercalate separator texts) := by
  cases texts with
  | nil => exact ⟨"", by simp, Or.inl ⟨rfl, rfl⟩⟩
  | cons next texts =>
      refine ⟨separator ++ String.intercalate separator (next :: texts), ?_, Or.inr ⟨by simp, rfl⟩⟩
      rw [String.intercalate_cons_cons, String.append_assoc]

theorem intercalate_prefixed_ne_empty {separator : String} {texts : List String}
    (some : texts ≠ []) : String.intercalate separator (texts.map (prefixed weight)) ≠ "" := by
  obtain ⟨text, texts, rfl⟩ := List.exists_cons_of_ne_nil some
  obtain ⟨tail, joined, _⟩ :=
    @intercalate_cons separator (prefixed weight text) (texts.map (prefixed weight))
  rw [List.map_cons, joined]
  intro empty
  exact prefixed_ne_empty (String.append_eq_empty_iff.mp empty).1

/-- Texts behind their lengths are read back from between any separators. -/
theorem intercalate_prefixed_inj (positive : ∀ char, 0 < weight char) {separator : String}
    {texts texts' : List String} :
    String.intercalate separator (texts.map (prefixed weight)) =
      String.intercalate separator (texts'.map (prefixed weight)) ↔ texts = texts' := by
  refine ⟨fun same => ?_, fun same => by rw [same]⟩
  induction texts generalizing texts' with
  | nil =>
      cases texts' with
      | nil => rfl
      | cons text' texts' => exact absurd same.symm (intercalate_prefixed_ne_empty (by simp))
  | cons text texts induction =>
      cases texts' with
      | nil => exact absurd same (intercalate_prefixed_ne_empty (by simp))
      | cons text' texts' =>
          obtain ⟨tail, joined, shape⟩ :=
            @intercalate_cons separator (prefixed weight text) (texts.map (prefixed weight))
          obtain ⟨tail', joined', shape'⟩ :=
            @intercalate_cons separator (prefixed weight text') (texts'.map (prefixed weight))
          rw [List.map_cons, List.map_cons, joined, joined', prefixed_append_inj positive] at same
          obtain ⟨rfl, tails⟩ := same
          obtain ⟨empty, last⟩ | ⟨more, behind⟩ := shape
          · obtain ⟨_, last'⟩ | ⟨more', behind'⟩ := shape'
            · rw [List.map_eq_nil_iff] at last last'
              rw [last, last']
            · rw [empty, behind'] at tails
              have none := (String.append_eq_empty_iff.mp tails.symm).2
              exact absurd none (intercalate_prefixed_ne_empty fun nil => more' (by rw [nil]; rfl))
          · obtain ⟨empty', _⟩ | ⟨_, behind'⟩ := shape'
            · rw [empty', behind] at tails
              have none := (String.append_eq_empty_iff.mp tails).2
              exact absurd none (intercalate_prefixed_ne_empty fun nil => more (by rw [nil]; rfl))
            · rw [behind, behind'] at tails
              rw [induction ((String.append_right_inj separator).mp tails)]

end TextKey
