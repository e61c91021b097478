import Mathlib

/-!
# Worklist search of a directed graph

A search takes nodes from the front of a queue, keeps each one it has not met, and queues its
successors.  With one step for each queued node and each edge of an unmet node, the nodes it keeps
are exactly those reachable from the seed.
-/

namespace Dalph
namespace Worklist

variable {α : Type} [DecidableEq α] {successors : α → List α} {nodes pending met : List α}
  {node origin next : α}

def Reaches (successors : α → List α) : α → α → Prop :=
  Relation.ReflTransGen fun node next => next ∈ successors node

def visit (successors : α → List α) : Nat → List α → List α → List α
  | 0, _, met => met
  | _, [], met => met
  | steps + 1, node :: pending, met =>
      if node ∈ met then visit successors steps pending met
      else visit successors steps (pending ++ successors node) (met ++ [node])

def unmetEdges (successors : α → List α) (nodes met : List α) : Nat :=
  ((nodes.filter (· ∉ met)).map fun node => (successors node).length).sum

def work (successors : α → List α) (nodes pending met : List α) : Nat :=
  pending.length + unmetEdges successors nodes met

def search (successors : α → List α) (nodes seed : List α) : List α :=
  visit successors (work successors nodes seed []) seed []

theorem unmetEdges_append (listed : node ∈ nodes) (unmet : node ∉ met) :
    unmetEdges successors nodes (met ++ [node]) + (successors node).length ≤
      unmetEdges successors nodes met := by
  unfold unmetEdges
  obtain ⟨before, after, rfl⟩ := List.append_of_mem listed
  have fewer : ∀ others : List α,
      ((others.filter (· ∉ met ++ [node])).map fun node => (successors node).length).sum ≤
        ((others.filter (· ∉ met)).map fun node => (successors node).length).sum := by
    intro others
    refine List.Sublist.sum_le_sum (List.Sublist.map _ ?_) fun _ _ => Nat.zero_le _
    refine List.monotone_filter_right others fun other kept => ?_
    simp only [List.mem_append, not_or, decide_eq_true_iff] at kept ⊢
    exact kept.1
  have left := fewer before
  have right := fewer after
  simp only [List.filter_append, List.filter_cons, unmet, List.mem_append, List.mem_singleton,
    or_true, not_true_eq_false, not_false_eq_true, decide_false, decide_true, Bool.false_eq_true,
    if_false, if_true, List.map_append, List.map_cons, List.sum_append, List.sum_cons] at left right ⊢
  omega

theorem work_meet (complete : ∀ node, node ∉ nodes → successors node = []) (unmet : node ∉ met) :
    work successors nodes (pending ++ successors node) (met ++ [node]) + 1 ≤
      work successors nodes (node :: pending) met := by
  unfold work
  rw [List.length_append, List.length_cons]
  by_cases listed : node ∈ nodes
  · have less := @unmetEdges_append α _ successors nodes met node listed unmet
    omega
  · have same : unmetEdges successors nodes (met ++ [node]) = unmetEdges successors nodes met := by
      unfold unmetEdges
      congr 2
      refine List.filter_congr fun other member => ?_
      have apart : other ≠ node := fun same => listed (same ▸ member)
      simp [apart]
    rw [same, complete node listed, List.length_nil]
    omega

omit [DecidableEq α] in
theorem Reaches.met_or_passes (settled : ∀ node ∈ met, ∀ next ∈ successors node,
      next ∈ met ∨ next ∈ pending)
    (start : origin ∈ met) (reaches : Reaches successors origin node) :
    node ∈ met ∨ ∃ queued ∈ pending, Reaches successors queued node := by
  induction reaches with
  | refl => exact Or.inl start
  | tail _ edge induction =>
      obtain member | ⟨queued, waits, path⟩ := induction
      · obtain member | waits := settled _ member _ edge
        · exact Or.inl member
        · exact Or.inr ⟨_, waits, .refl⟩
      · exact Or.inr ⟨queued, waits, path.tail edge⟩

/-- A visit with enough steps meets exactly what the queue reaches. -/
theorem mem_visit_iff (complete : ∀ node, node ∉ nodes → successors node = []) {steps : Nat}
    (settled : ∀ node ∈ met, ∀ next ∈ successors node, next ∈ met ∨ next ∈ pending)
    (enough : work successors nodes pending met ≤ steps) :
    node ∈ visit successors steps pending met ↔
      node ∈ met ∨ ∃ queued ∈ pending, Reaches successors queued node := by
  induction steps generalizing pending met with
  | zero =>
      have empty : pending = [] := by
        unfold work at enough
        exact List.length_eq_zero_iff.mp (by omega)
      simp [visit, empty]
  | succ steps induction =>
      cases pending with
      | nil => simp [visit]
      | cons first rest =>
          by_cases known : first ∈ met
          · have keeps : ∀ node ∈ met, ∀ next ∈ successors node, next ∈ met ∨ next ∈ rest := by
              intro node member next edge
              obtain member | waits := settled node member next edge
              · exact Or.inl member
              · obtain rfl | waits := List.mem_cons.mp waits
                · exact Or.inl known
                · exact Or.inr waits
            have less : work successors nodes rest met ≤ steps := by
              unfold work at enough ⊢
              rw [List.length_cons] at enough
              omega
            rw [visit, if_pos known, induction keeps less]
            constructor
            · rintro (member | ⟨queued, waits, path⟩)
              · exact Or.inl member
              · exact Or.inr ⟨queued, List.mem_cons_of_mem first waits, path⟩
            · rintro (member | ⟨queued, waits, path⟩)
              · exact Or.inl member
              · obtain rfl | waits := List.mem_cons.mp waits
                · exact path.met_or_passes keeps known
                · exact Or.inr ⟨queued, waits, path⟩
          · have keeps : ∀ node ∈ met ++ [first], ∀ next ∈ successors node,
                next ∈ met ++ [first] ∨ next ∈ rest ++ successors first := by
              intro node member next edge
              obtain member | same := List.mem_append.mp member
              · obtain member | waits := settled node member next edge
                · exact Or.inl (List.mem_append_left _ member)
                · obtain rfl | waits := List.mem_cons.mp waits
                  · exact Or.inl (by simp)
                  · exact Or.inr (List.mem_append_left _ waits)
              · obtain rfl := List.mem_singleton.mp same
                exact Or.inr (List.mem_append_right _ edge)
            have less : work successors nodes (rest ++ successors first) (met ++ [first]) ≤ steps :=
              Nat.le_of_succ_le_succ
                (Nat.le_trans (work_meet complete known) enough)
            rw [visit, if_neg known, induction keeps less]
            constructor
            · rintro (member | ⟨queued, waits, path⟩)
              · obtain member | same := List.mem_append.mp member
                · exact Or.inl member
                · obtain rfl := List.mem_singleton.mp same
                  exact Or.inr ⟨_, List.mem_cons_self, .refl⟩
              · obtain waits | edge := List.mem_append.mp waits
                · exact Or.inr ⟨queued, List.mem_cons_of_mem first waits, path⟩
                · exact Or.inr ⟨first, List.mem_cons_self, path.head edge⟩
            · rintro (member | ⟨queued, waits, path⟩)
              · exact Or.inl (List.mem_append_left _ member)
              · obtain rfl | waits := List.mem_cons.mp waits
                · exact path.met_or_passes keeps (by simp)
                · exact Or.inr ⟨queued, List.mem_append_left _ waits, path⟩

theorem mem_search_iff (complete : ∀ node, node ∉ nodes → successors node = [])
    {seed : List α} :
    node ∈ search successors nodes seed ↔
      ∃ origin ∈ seed, Reaches successors origin node := by
  rw [search, mem_visit_iff complete (by simp) (Nat.le_refl _)]
  simp

end Worklist
end Dalph
