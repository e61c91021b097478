import Mathlib

/-!
# Text in UTF-16 code units

The source compares and measures strings by their code units.  A character outside the basic plane
takes two surrogates, which no other character uses, so the units determine the text.
-/

namespace Dalph
namespace Utf16

def charUnits (char : Char) : List Nat :=
  if char.toNat < 0x10000 then [char.toNat]
  else [0xD800 + (char.toNat - 0x10000) / 0x400, 0xDC00 + (char.toNat - 0x10000) % 0x400]

def units (text : String) : List Nat :=
  text.toList.flatMap charUnits

theorem charUnits_append_inj {char other : Char} {rest rest' : List Nat}
    (same : charUnits char ++ rest = charUnits other ++ rest') : char = other ∧ rest = rest' := by
  have valid := char.valid
  have valid' := other.valid
  have bound : char.toNat < 0xD800 ∨ 0xDFFF < char.toNat ∧ char.toNat < 0x110000 := valid
  have bound' : other.toNat < 0xD800 ∨ 0xDFFF < other.toNat ∧ other.toNat < 0x110000 := valid'
  have determined : char.toNat = other.toNat → char = other := fun equal =>
    Char.ext (UInt32.toNat_inj.mp equal)
  unfold charUnits at same
  by_cases low : char.toNat < 0x10000 <;> by_cases low' : other.toNat < 0x10000
  · rw [if_pos low, if_pos low'] at same
    obtain ⟨equal, rests⟩ := List.cons.inj same
    exact ⟨determined equal, rests⟩
  · rw [if_pos low, if_neg low'] at same
    have first := (List.cons.inj same).1
    omega
  · rw [if_neg low, if_pos low'] at same
    have first := (List.cons.inj same).1
    omega
  · rw [if_neg low, if_neg low'] at same
    obtain ⟨first, tails⟩ := List.cons.inj same
    obtain ⟨second, rests⟩ := List.cons.inj tails
    exact ⟨determined (by omega), rests⟩

theorem units_injective : Function.Injective units := by
  have lists : ∀ text text' : List Char, text.flatMap charUnits = text'.flatMap charUnits →
      text = text' := by
    intro text
    induction text with
    | nil =>
        intro text' same
        cases text' with
        | nil => rfl
        | cons char rest =>
            have empty := congrArg List.length same
            unfold charUnits at empty
            rw [List.flatMap_cons] at empty
            split at empty <;> simp at empty
    | cons char rest induction =>
        intro text' same
        cases text' with
        | nil =>
            have empty := congrArg List.length same
            unfold charUnits at empty
            rw [List.flatMap_cons] at empty
            split at empty <;> simp at empty
        | cons char' rest' =>
            rw [List.flatMap_cons, List.flatMap_cons] at same
            obtain ⟨rfl, tails⟩ := charUnits_append_inj same
            rw [induction rest' tails]
  intro text text' same
  exact String.toList_inj.mp (lists _ _ same)

end Utf16

end Dalph
