import Mathlib.Data.List.Infix

/-!
# The run that ends a list

A list that grows at its end keeps the longest run of alike entries there: the next entry joins the
run where it is like the last one, and starts a run of its own where it is not.
-/

namespace Dalph

variable {Item : Type} {Alike : Item → Item → Prop} {before run other : List Item} {item : Item}

/-- The entries behind `before` are alike and the last one before them is not like the first. -/
structure FinalRun (Alike : Item → Item → Prop) (before run : List Item) : Prop where
  nonempty : run ≠ []
  uniform : run.Pairwise Alike
  bounded : ∀ last ∈ before.getLast?, ∀ first ∈ run.head?, ¬ Alike last first

namespace FinalRun

theorem single (item : Item) : FinalRun Alike [] [item] where
  nonempty := List.cons_ne_nil item []
  uniform := List.pairwise_singleton Alike item
  bounded := fun _ absent => by cases absent

section

variable (final : FinalRun Alike before run)
include final

theorem longest (suffix : other <:+ before ++ run) (uniform : other.Pairwise Alike) :
    other <:+ run := by
  obtain ⟨skipped, split⟩ := suffix
  obtain ⟨middle, rfl, rest⟩ | ⟨middle, rfl, rest⟩ := List.append_eq_append_iff.mp split
  · -- the other run begins before the final one, so it holds two entries that are not alike
    obtain rfl | ⟨earlier, last, rfl⟩ := List.eq_nil_or_concat middle
    · exact ⟨[], rest⟩
    · obtain ⟨first, later, rfl⟩ := List.exists_cons_of_ne_nil final.nonempty
      refine absurd ?_ (final.bounded last (by simp) first rfl)
      rw [rest] at uniform
      exact (List.pairwise_append.mp uniform).2.2 last (by simp) first (by simp)
  · exact ⟨middle, rest.symm⟩

theorem ends {earlier : List Item} (split : earlier ++ [item] = before ++ run) :
    run.getLast? = some item := by
  have last := congrArg List.getLast? split
  rw [List.getLast?_concat, List.getLast?_append_of_ne_nil _ final.nonempty] at last
  exact last.symm

theorem alike_last {latest : Item} (ends : run.getLast? = some latest) (member : item ∈ run) :
    item = latest ∨ Alike item latest := by
  obtain ⟨earlier, rfl⟩ := List.getLast?_eq_some_iff.mp ends
  obtain inside | here := List.mem_append.mp member
  · exact Or.inr ((List.pairwise_append.mp final.uniform).2.2 item inside latest (by simp))
  · exact Or.inl (List.mem_singleton.mp here)

theorem not_alike_last [trans : IsTrans Item Alike] [symm : Std.Symm Alike] {last latest : Item}
    (stands : before.getLast? = some last) (ends : run.getLast? = some latest) :
    ¬ Alike last latest := by
  obtain ⟨first, later, rfl⟩ := List.exists_cons_of_ne_nil final.nonempty
  intro alike
  refine final.bounded last stands first rfl ?_
  obtain rfl | same := final.alike_last ends List.mem_cons_self
  · exact alike
  · exact trans.trans _ _ _ alike (symm.symm _ _ same)

theorem join [trans : IsTrans Item Alike] {latest : Item} (ends : run.getLast? = some latest)
    (alike : Alike latest item) :
    FinalRun Alike before (run ++ [item]) where
  nonempty := by simp
  uniform := by
    refine List.pairwise_append.mpr ⟨final.uniform, List.pairwise_singleton Alike item, ?_⟩
    intro earlier member next only
    rw [List.mem_singleton.mp only]
    obtain rfl | same := final.alike_last ends member
    · exact alike
    · exact trans.trans _ _ _ same alike
  bounded := by
    intro last ends first starts
    refine final.bounded last ends first ?_
    obtain ⟨head, later, rfl⟩ := List.exists_cons_of_ne_nil final.nonempty
    simpa using starts

theorem start {latest : Item} (ends : run.getLast? = some latest) (apart : ¬ Alike latest item) :
    FinalRun Alike (before ++ run) [item] where
  nonempty := by simp
  uniform := List.pairwise_singleton Alike item
  bounded := by
    intro last before first starts
    rw [List.getLast?_append_of_ne_nil _ final.nonempty, ends] at before
    cases before
    cases starts
    exact apart

end

end FinalRun

end Dalph
