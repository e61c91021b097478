import Mathlib

/-!
# Saturation of a finite dependency relation

A finite relation is given by its nodes, each listed with its direct sources.  Repeated sweeps mark
every node that has a marked source, until one sweep marks nothing.  The marked nodes are then
exactly those reachable from the seed.
-/

namespace Dalph
namespace Closure

variable {α : Type} [DecidableEq α]

def Edge (nodes : List (α × List α)) (source node : α) : Prop :=
  ∃ sources, (node, sources) ∈ nodes ∧ source ∈ sources

def Reaches (nodes : List (α × List α)) : α → α → Prop :=
  Relation.ReflTransGen (Edge nodes)

def visit (marked : List α) (node : α × List α) : List α :=
  if node.1 ∉ marked ∧ node.2.any (· ∈ marked) then marked ++ [node.1] else marked

def sweep (nodes : List (α × List α)) (marked : List α) : List α :=
  nodes.foldl visit marked

def saturateWithin (nodes : List (α × List α)) : Nat → List α → List α
  | 0, marked => marked
  | fuel + 1, marked =>
      if (sweep nodes marked).length = marked.length then marked
      else saturateWithin nodes fuel (sweep nodes marked)

def saturate (nodes : List (α × List α)) (seed : List α) : List α :=
  saturateWithin nodes (nodes.length + 1) seed

omit [DecidableEq α] in
theorem Reaches.refl (nodes : List (α × List α)) (node : α) : Reaches nodes node node :=
  Relation.ReflTransGen.refl

theorem subset_visit (marked : List α) (node : α × List α) : marked ⊆ visit marked node := by
  unfold visit
  split
  · exact List.subset_append_left _ _
  · exact List.Subset.refl _

theorem subset_sweep (nodes : List (α × List α)) (marked : List α) :
    marked ⊆ sweep nodes marked := by
  induction nodes generalizing marked with
  | nil => exact List.Subset.refl _
  | cons node nodes ih => exact List.Subset.trans (subset_visit marked node) (ih (visit marked node))

theorem length_le_visit (marked : List α) (node : α × List α) :
    marked.length ≤ (visit marked node).length := by
  unfold visit
  split <;> simp

theorem length_le_sweep (nodes : List (α × List α)) (marked : List α) :
    marked.length ≤ (sweep nodes marked).length := by
  induction nodes generalizing marked with
  | nil => exact Nat.le_refl _
  | cons node nodes ih => exact Nat.le_trans (length_le_visit marked node) (ih (visit marked node))

variable {nodes : List (α × List α)} {marked : List α}

theorem visit_eq_of_sweep_length (stable : (sweep nodes marked).length = marked.length)
    {node : α × List α} (member : node ∈ nodes) : visit marked node = marked := by
  induction nodes generalizing marked with
  | nil => cases member
  | cons head nodes ih =>
      have stable' : (sweep nodes (visit marked head)).length = marked.length := stable
      have grown := length_le_sweep nodes (visit marked head)
      have headStable : visit marked head = marked := by
        unfold visit at grown stable' ⊢
        split
        · rename_i marks
          rw [if_pos marks] at grown stable'
          simp only [List.length_append, List.length_singleton] at grown
          omega
        · rfl
      rw [headStable] at stable'
      rcases List.mem_cons.mp member with rfl | member
      · exact headStable
      · exact ih stable' member

theorem mem_sweep {allNodes : List (α × List α)} {node : α} (within : nodes ⊆ allNodes)
    (member : node ∈ sweep nodes marked) : ∃ origin ∈ marked, Reaches allNodes origin node := by
  induction nodes generalizing marked with
  | nil => exact ⟨node, member, Reaches.refl _ _⟩
  | cons head nodes ih =>
      obtain ⟨origin, originMember, reaches⟩ :=
        ih (fun _ h => within (List.mem_cons_of_mem _ h)) member
      unfold visit at originMember
      split at originMember
      · rename_i marks
        rcases List.mem_append.mp originMember with old | new
        · exact ⟨origin, old, reaches⟩
        · obtain rfl := List.mem_singleton.mp new
          obtain ⟨source, sourceMember, sourceMarked⟩ := List.any_eq_true.mp marks.2
          have edge : Edge allNodes source head.1 :=
            ⟨head.2, within List.mem_cons_self, sourceMember⟩
          exact ⟨source, of_decide_eq_true sourceMarked, reaches.head edge⟩
      · exact ⟨origin, originMember, reaches⟩

def unmarked (nodes : List (α × List α)) (marked : List α) : Nat :=
  nodes.countP fun node => node.1 ∉ marked

theorem unmarked_le_of_subset {before after : List α} (grows : before ⊆ after)
    (nodes : List (α × List α)) : unmarked nodes after ≤ unmarked nodes before := by
  unfold unmarked
  apply List.countP_mono_left
  intro node _ fresh
  simp only [decide_eq_true_eq] at fresh ⊢
  exact fun old => fresh (grows old)

theorem unmarked_lt_of_new {before after : List α} (grows : before ⊆ after) {node : α × List α}
    (member : node ∈ nodes) (fresh : node.1 ∉ before) (marked : node.1 ∈ after) :
    unmarked nodes after < unmarked nodes before := by
  induction nodes with
  | nil => cases member
  | cons head nodes ih =>
      have tail := unmarked_le_of_subset grows nodes
      simp only [unmarked, List.countP_cons] at tail ih ⊢
      rcases List.mem_cons.mp member with rfl | member
      · simp only [marked, fresh, not_true_eq_false, not_false_eq_true, decide_false, decide_true]
        simp only [Bool.false_eq_true, if_false, if_true]
        omega
      · have strict := ih member
        by_cases headAfter : head.1 ∈ after
        · simp only [headAfter, not_true_eq_false, decide_false, Bool.false_eq_true, if_false]
          omega
        · have headBefore : head.1 ∉ before := fun old => headAfter (grows old)
          simp only [headAfter, headBefore, not_false_eq_true, decide_true, if_true]
          omega

theorem exists_new_of_sweep_length_ne (changed : (sweep nodes marked).length ≠ marked.length) :
    ∃ node ∈ nodes, node.1 ∉ marked ∧ node.1 ∈ sweep nodes marked := by
  induction nodes generalizing marked with
  | nil => exact absurd rfl changed
  | cons head nodes ih =>
      by_cases marks : head.1 ∉ marked ∧ head.2.any (· ∈ marked)
      · refine ⟨head, List.mem_cons_self, marks.1, subset_sweep nodes _ ?_⟩
        simp [visit, marks]
      · have skip : visit marked head = marked := if_neg marks
        have same : sweep (head :: nodes) marked = sweep nodes marked :=
          congrArg (sweep nodes) skip
        rw [same] at changed ⊢
        obtain ⟨node, member, fresh, new⟩ := ih changed
        exact ⟨node, List.mem_cons_of_mem _ member, fresh, new⟩

theorem saturateWithin_stable {fuel : Nat} (enough : unmarked nodes marked < fuel) :
    (sweep nodes (saturateWithin nodes fuel marked)).length =
      (saturateWithin nodes fuel marked).length := by
  induction fuel generalizing marked with
  | zero => exact absurd enough (Nat.not_lt_zero _)
  | succ fuel ih =>
      simp only [saturateWithin]
      split
      · assumption
      · rename_i changed
        obtain ⟨node, member, fresh, new⟩ := exists_new_of_sweep_length_ne changed
        have smaller := unmarked_lt_of_new (subset_sweep nodes marked) member fresh new
        exact ih (by omega)

theorem subset_saturateWithin (nodes : List (α × List α)) (fuel : Nat) (marked : List α) :
    marked ⊆ saturateWithin nodes fuel marked := by
  induction fuel generalizing marked with
  | zero => exact List.Subset.refl _
  | succ fuel ih =>
      simp only [saturateWithin]
      split
      · exact List.Subset.refl _
      · exact List.Subset.trans (subset_sweep nodes marked) (ih _)

theorem mem_saturateWithin {fuel : Nat} {node : α}
    (member : node ∈ saturateWithin nodes fuel marked) :
    ∃ origin ∈ marked, Reaches nodes origin node := by
  induction fuel generalizing marked with
  | zero => exact ⟨node, member, Reaches.refl _ _⟩
  | succ fuel ih =>
      simp only [saturateWithin] at member
      split at member
      · exact ⟨node, member, Reaches.refl _ _⟩
      · obtain ⟨middle, middleMember, fromMiddle⟩ := ih member
        obtain ⟨origin, originMember, toMiddle⟩ := mem_sweep (List.Subset.refl _) middleMember
        exact ⟨origin, originMember, toMiddle.trans fromMiddle⟩

theorem sweep_saturate (nodes : List (α × List α)) (seed : List α) :
    sweep nodes (saturate nodes seed) = saturate nodes seed := by
  have stable : (sweep nodes (saturate nodes seed)).length = (saturate nodes seed).length :=
    saturateWithin_stable (Nat.lt_succ_of_le List.countP_le_length)
  have fixed : ∀ part ⊆ nodes, sweep part (saturate nodes seed) = saturate nodes seed := by
    intro part within
    induction part with
    | nil => rfl
    | cons node part induction =>
        have skip := visit_eq_of_sweep_length stable (within List.mem_cons_self)
        unfold sweep at induction ⊢
        rw [List.foldl_cons, skip]
        exact induction fun other member => within (List.mem_cons_of_mem node member)
  exact fixed nodes (List.Subset.refl nodes)

theorem nodup_visit (node : α × List α) (distinct : marked.Nodup) : (visit marked node).Nodup := by
  unfold visit
  split
  · rename_i marks
    refine List.nodup_append.mpr ⟨distinct, List.nodup_singleton _, ?_⟩
    rintro old member new single rfl
    exact marks.1 (List.mem_singleton.mp single ▸ member)
  · exact distinct

theorem nodup_sweep (nodes : List (α × List α)) (distinct : marked.Nodup) :
    (sweep nodes marked).Nodup := by
  induction nodes generalizing marked with
  | nil => exact distinct
  | cons node nodes induction => exact induction (nodup_visit node distinct)

theorem nodup_saturate {seed : List α} (nodes : List (α × List α)) (distinct : seed.Nodup) :
    (saturate nodes seed).Nodup := by
  have within : ∀ fuel (marked : List α), marked.Nodup → (saturateWithin nodes fuel marked).Nodup := by
    intro fuel
    induction fuel with
    | zero => exact fun marked distinct => distinct
    | succ fuel induction =>
        intro marked distinct
        rw [saturateWithin]
        split
        · exact distinct
        · exact induction _ (nodup_sweep nodes distinct)
  exact within _ seed distinct

theorem mem_saturate_iff {seed : List α} {node : α} :
    node ∈ saturate nodes seed ↔ ∃ origin ∈ seed, Reaches nodes origin node := by
  constructor
  · exact mem_saturateWithin
  · rintro ⟨origin, originMember, reaches⟩
    have stable : (sweep nodes (saturate nodes seed)).length = (saturate nodes seed).length :=
      saturateWithin_stable (Nat.lt_succ_of_le List.countP_le_length)
    induction reaches with
    | refl => exact subset_saturateWithin nodes _ seed originMember
    | tail _ edge marked =>
        obtain ⟨sources, member, sourceMember⟩ := edge
        by_contra unmarkedNode
        have skipped := visit_eq_of_sweep_length stable member
        unfold visit at skipped
        rw [if_pos ⟨unmarkedNode, List.any_eq_true.mpr ⟨_, sourceMember, decide_eq_true marked⟩⟩]
          at skipped
        simpa using congrArg List.length skipped

omit [DecidableEq α] in
theorem reaches_congr {nodes' : List (α × List α)} (perm : nodes.Perm nodes') {origin node : α} :
    Reaches nodes origin node ↔ Reaches nodes' origin node := by
  have same : Edge nodes = Edge nodes' := by
    funext source target
    unfold Edge
    simp only [perm.mem_iff]
  unfold Reaches
  rw [same]

end Closure
end Dalph
