import Mathlib

/-!
# Logs whose entries were admissible when written

An append-only log is justified when every entry was admissible on the entries before it.  What
admissibility excludes between an entry and the earlier ones, no two entries of the log have.
-/

namespace Log

variable {Entry : Type*} {Admissible : List Entry → Entry → Prop}

def Justified (Admissible : List Entry → Entry → Prop) (log : List Entry) : Prop :=
  ∀ before entry after, log = before ++ entry :: after → Admissible before entry

theorem justified_nil : Justified Admissible [] := by
  intro before entry after split
  simp at split

variable {log : List Entry}

theorem mem_concat {last entry : Entry} : entry ∈ log ++ [last] ↔ entry ∈ log ∨ entry = last := by
  simp

theorem split_concat {before after : List Entry} {last entry : Entry}
    (split : log ++ [last] = before ++ entry :: after) :
    (before = log ∧ entry = last) ∨ ∃ shorter, log = before ++ entry :: shorter := by
  obtain rfl | ⟨rest, final, rfl⟩ := List.eq_nil_or_concat after
  · obtain ⟨same, tail⟩ := List.append_inj' split rfl
    exact Or.inl ⟨same.symm, (List.cons.inj tail).1.symm⟩
  · have longer : log ++ [last] = (before ++ entry :: rest) ++ [final] := by
      rw [split, List.concat_eq_append, List.append_assoc, List.cons_append]
    exact Or.inr ⟨rest, (List.append_inj' longer rfl).1⟩

theorem justified_concat {entry : Entry} :
    Justified Admissible (log ++ [entry]) ↔ Justified Admissible log ∧ Admissible log entry := by
  constructor
  · intro justified
    refine ⟨fun before earlier after split => ?_, justified log entry [] rfl⟩
    exact justified before earlier (after ++ [entry]) (by simp [split])
  · rintro ⟨justified, admissible⟩ before earlier after split
    obtain ⟨rfl, rfl⟩ | ⟨shorter, inner⟩ := split_concat split
    · exact admissible
    · exact justified before earlier shorter inner

theorem Justified.left {before after : List Entry} (justified : Justified Admissible (before ++ after)) :
    Justified Admissible before := by
  intro first entry last split
  exact justified first entry (last ++ after) (by simp [split])

theorem Justified.admissible_of_mem (justified : Justified Admissible log) {entry : Entry}
    (member : entry ∈ log) : ∃ before, before <+: log ∧ Admissible before entry := by
  obtain ⟨before, after, split⟩ := List.append_of_mem member
  exact ⟨before, ⟨entry :: after, split.symm⟩, justified before entry after split⟩

theorem Justified.pairwise {Clash : Entry → Entry → Prop} (justified : Justified Admissible log)
    (excluded : ∀ before entry, Justified Admissible before → Admissible before entry →
      ∀ earlier ∈ before, ¬ Clash earlier entry) :
    log.Pairwise fun earlier later => ¬ Clash earlier later := by
  induction log using List.reverseRecOn with
  | nil => exact List.Pairwise.nil
  | append_singleton log entry induction =>
      obtain ⟨others, admissible⟩ := justified_concat.mp justified
      rw [List.pairwise_append]
      refine ⟨induction others, List.pairwise_singleton _ _, ?_⟩
      intro earlier member later last
      rw [List.mem_singleton] at last
      subst last
      exact excluded log later others admissible earlier member

theorem Justified.eq_of_clash {Clash : Entry → Entry → Prop} {log : List Entry}
    (justified : Justified Admissible log)
    (excluded : ∀ before entry, Justified Admissible before → Admissible before entry →
      ∀ earlier ∈ before, ¬ Clash earlier entry)
    (symmetric : ∀ {left right}, Clash left right → Clash right left) {left right : Entry}
    (leftMember : left ∈ log) (rightMember : right ∈ log) (clash : Clash left right) :
    left = right := by
  have : Std.Symm fun left right => ¬ Clash left right :=
    ⟨fun _ _ apart reversed => apart (symmetric reversed)⟩
  by_contra different
  exact (justified.pairwise excluded).forall leftMember rightMember different clash

end Log
