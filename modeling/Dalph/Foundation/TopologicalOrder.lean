import Dalph.Foundation.Log

/-!
# Topological order

Nodes are emitted one at a time, always the least of those whose prerequisites are all emitted.
Each node counts the prerequisites it still waits for and becomes ready when the count falls to
zero.  On an acyclic graph every node is emitted, and no order that respects the prerequisites is
lexicographically smaller.
-/

namespace Dalph
namespace TopologicalOrder

variable {α : Type} [LinearOrder α]

/-- Nodes to emit in increasing order, prerequisites still awaited, and nodes emitted. -/
structure State (α : Type) where
  ready : List α
  remainingPrerequisites : α → Int
  order : List α

/-- A prerequisite of the node was emitted. -/
def release (state : State α) (dependant : α) : State α :=
  let remaining := state.remainingPrerequisites dependant - 1
  let counted :=
    { state with
      remainingPrerequisites := Function.update state.remainingPrerequisites dependant remaining }
  if remaining = 0 then
    { counted with ready := (state.ready ++ [dependant]).insertionSort (· ≤ ·) }
  else counted

/-- Emit at most the given number of nodes. -/
def run (dependants : α → List α) : Nat → State α → State α
  | 0, state => state
  | steps + 1, state =>
      match state.ready with
      | [] => state
      | node :: ready =>
          run dependants steps
            ((dependants node).foldl release { state with ready, order := state.order ++ [node] })

def start (prerequisites : α → List α) (nodes : List α) : State α :=
  { ready := nodes.filter fun node => (prerequisites node).length = 0
    remainingPrerequisites := fun node => (prerequisites node).length
    order := [] }

def order (prerequisites dependants : α → List α) (nodes : List α) : List α :=
  (run dependants nodes.length (start prerequisites nodes)).order

variable {prerequisites dependants : α → List α} {nodes : List α} {state : State α} {node other : α}

def Respects (prerequisites : α → List α) (order : List α) : Prop :=
  ∀ front node back, order = front ++ node :: back → prerequisites node ⊆ front

def Greedy (prerequisites : α → List α) (nodes order : List α) : Prop :=
  ∀ front node back, order = front ++ node :: back → ∀ other ∈ nodes, other ∉ front →
    prerequisites other ⊆ front → node ≤ other

/-- Nodes are listed in increasing order; prerequisites and dependants are the two directions of one
acyclic relation between them, without repeated edges. -/
structure Graph (prerequisites dependants : α → List α) (nodes : List α) : Prop where
  increasing : nodes.Pairwise (· < ·)
  prerequisites_nodup : ∀ node ∈ nodes, (prerequisites node).Nodup
  prerequisites_subset : ∀ node ∈ nodes, prerequisites node ⊆ nodes
  dependants_nodup : ∀ node ∈ nodes, (dependants node).Nodup
  mem_dependants_iff : ∀ node ∈ nodes, ∀ other, other ∈ dependants node ↔
    other ∈ nodes ∧ node ∈ prerequisites other
  acyclic : ∀ node, ¬ Relation.TransGen
    (fun prerequisite node => node ∈ nodes ∧ prerequisite ∈ prerequisites node) node node

theorem Graph.exists_source (graph : Graph prerequisites dependants nodes) {remaining : α → Prop}
    (listed : node ∈ nodes) (left : remaining node) :
    ∃ source ∈ nodes, remaining source ∧
      ∀ prerequisite ∈ prerequisites source, ¬ remaining prerequisite := by
  let precedes := Relation.TransGen
    fun prerequisite node => node ∈ nodes ∧ prerequisite ∈ prerequisites node
  have : IsStrictOrder α precedes :=
    { irrefl := graph.acyclic
      trans := fun _ _ _ first second => first.trans second }
  have finite : Set.WellFoundedOn {node | node ∈ nodes} precedes :=
    (List.finite_toSet nodes).wellFoundedOn
  obtain ⟨⟨source, member⟩, waits, least⟩ :=
    WellFounded.has_min finite {node | remaining node.1} ⟨⟨node, listed⟩, left⟩
  refine ⟨source, member, waits, fun prerequisite edge also => ?_⟩
  have inside : prerequisite ∈ nodes := graph.prerequisites_subset source member edge
  exact least ⟨prerequisite, inside⟩ also (.single ⟨member, edge⟩)

/-- What emission keeps. -/
structure Invariant (prerequisites : α → List α) (nodes : List α) (state : State α) : Prop where
  nodup : state.order.Nodup
  subset : state.order ⊆ nodes
  respects : Respects prerequisites state.order
  greedy : Greedy prerequisites nodes state.order
  increasing : state.ready.Pairwise (· < ·)
  mem_ready_iff : ∀ node, node ∈ state.ready ↔
    node ∈ nodes ∧ node ∉ state.order ∧ prerequisites node ⊆ state.order
  counted : ∀ node ∈ nodes, state.remainingPrerequisites node =
    ((prerequisites node).filter (· ∉ state.order)).length

theorem foldl_release_order (released : List α) (state : State α) :
    (released.foldl release state).order = state.order := by
  induction released generalizing state with
  | nil => rfl
  | cons first released induction =>
      rw [List.foldl_cons, induction]
      unfold release
      dsimp only
      split <;> rfl

/-- Releasing distinct nodes lowers their counts and readies those that awaited one prerequisite. -/
theorem foldl_release {released : List α} (distinct : released.Nodup)
    (sorted : state.ready.Pairwise (· ≤ ·)) :
    (∀ node, (released.foldl release state).remainingPrerequisites node =
        state.remainingPrerequisites node - if node ∈ released then 1 else 0) ∧
      (released.foldl release state).ready.Perm
        (state.ready ++ released.filter fun node => state.remainingPrerequisites node = 1) ∧
      (released.foldl release state).ready.Pairwise (· ≤ ·) := by
  induction released generalizing state with
  | nil => simp [sorted]
  | cons first released induction =>
      obtain ⟨absent, distinct⟩ := List.nodup_cons.mp distinct
      have sorted' : (release state first).ready.Pairwise (· ≤ ·) := by
        unfold release
        dsimp only
        split
        · exact List.pairwise_insertionSort (· ≤ ·) _
        · exact sorted
      have readied : (release state first).ready.Perm
          (state.ready ++ if state.remainingPrerequisites first = 1 then [first] else []) := by
        unfold release
        dsimp only
        by_cases last : state.remainingPrerequisites first = 1
        · rw [if_pos (by omega), if_pos last]
          exact List.perm_insertionSort (· ≤ ·) _
        · rw [if_neg (by omega), if_neg last, List.append_nil]
      have counts : ∀ node, (release state first).remainingPrerequisites node =
          if node = first then state.remainingPrerequisites first - 1
          else state.remainingPrerequisites node := by
        intro node
        unfold release
        dsimp only
        split <;> exact Function.update_apply _ _ _ _
      obtain ⟨remaining, perm, sorted''⟩ := induction distinct sorted'
      refine ⟨fun node => ?_, perm.trans ?_, sorted''⟩
      · rw [List.foldl_cons, remaining, counts]
        by_cases head : node = first
        · subst head
          simp [absent]
        · simp [head]
      · have kept : (released.filter fun node =>
            (release state first).remainingPrerequisites node = 1) =
            released.filter fun node => state.remainingPrerequisites node = 1 := by
          refine List.filter_congr fun node member => ?_
          rw [counts, if_neg fun same : node = first => absent (same ▸ member)]
        rw [kept, List.filter_cons]
        refine (readied.append_right _).trans ?_
        rw [List.append_assoc]
        by_cases last : state.remainingPrerequisites first = 1
        · simp [last]
        · simp [last]

def emit (dependants : α → List α) (state : State α) (node : α) (ready : List α) : State α :=
  (dependants node).foldl release { state with ready, order := state.order ++ [node] }

@[simp]
theorem emit_order {ready : List α} :
    (emit dependants state node ready).order = state.order ++ [node] :=
  foldl_release_order _ _

theorem run_succ_of_ready {steps : Nat} {ready : List α} (shape : state.ready = node :: ready) :
    run dependants (steps + 1) state = run dependants steps (emit dependants state node ready) := by
  rw [run, shape]
  rfl

theorem run_of_ready_nil {steps : Nat} (shape : state.ready = []) :
    run dependants steps state = state := by
  cases steps with
  | zero => rfl
  | succ steps => rw [run, shape]

theorem run_order_append (state : State α) (steps : Nat) :
    ∃ tail, (run dependants steps state).order = state.order ++ tail := by
  induction steps generalizing state with
  | zero => exact ⟨[], (List.append_nil _).symm⟩
  | succ steps induction =>
      cases shape : state.ready with
      | nil => exact ⟨[], by rw [run_of_ready_nil shape, List.append_nil]⟩
      | cons node ready =>
          obtain ⟨tail, order⟩ := induction (emit dependants state node ready)
          refine ⟨node :: tail, ?_⟩
          rw [run_succ_of_ready shape, order, emit_order, List.append_assoc,
            List.singleton_append]

omit [LinearOrder α] in
theorem Respects.concat {order : List α} (respects : Respects prerequisites order)
    (behind : prerequisites node ⊆ order) : Respects prerequisites (order ++ [node]) := by
  intro front next back shape
  obtain ⟨rfl, rfl⟩ | ⟨shorter, inner⟩ := Log.split_concat shape
  · exact behind
  · exact respects front next shorter inner

theorem Greedy.concat {order : List α} (greedy : Greedy prerequisites nodes order)
    (least : ∀ other ∈ nodes, other ∉ order → prerequisites other ⊆ order → node ≤ other) :
    Greedy prerequisites nodes (order ++ [node]) := by
  intro front next back shape
  obtain ⟨rfl, rfl⟩ | ⟨shorter, inner⟩ := Log.split_concat shape
  · exact least
  · exact greedy front next shorter inner

omit [LinearOrder α] in
theorem Respects.subset_of_mem {order : List α} (respects : Respects prerequisites order)
    (member : node ∈ order) : prerequisites node ⊆ order := by
  obtain ⟨front, back, rfl⟩ := List.append_of_mem member
  exact List.Subset.trans (respects front node back rfl) (List.subset_append_left _ _)

theorem length_awaited {order awaited : List α} (distinct : awaited.Nodup) (fresh : node ∉ order) :
    (awaited.filter (· ∉ order)).length =
      (awaited.filter (· ∉ order ++ [node])).length + if node ∈ awaited then 1 else 0 := by
  have erased : awaited.filter (· ∉ order ++ [node]) = (awaited.filter (· ∉ order)).erase node := by
    rw [(distinct.filter _).erase_eq_filter, List.filter_filter]
    refine List.filter_congr fun other _ => ?_
    by_cases same : other = node <;> simp [same]
  rw [erased, List.length_erase]
  by_cases member : node ∈ awaited
  · have kept : node ∈ awaited.filter (· ∉ order) := List.mem_filter.mpr ⟨member, by simpa⟩
    have positive := List.length_pos_of_mem kept
    rw [if_pos kept, if_pos member]
    omega
  · have absent : node ∉ awaited.filter (· ∉ order) := fun kept =>
      member (List.mem_filter.mp kept).1
    rw [if_neg absent, if_neg member]
    rfl

section

variable (graph : Graph prerequisites dependants nodes)
include graph

theorem Invariant.after_emit {ready : List α} (inv : Invariant prerequisites nodes state)
    (shape : state.ready = node :: ready) :
    Invariant prerequisites nodes (emit dependants state node ready) := by
  obtain ⟨listed, fresh, behind⟩ := (inv.mem_ready_iff node).mp (shape ▸ List.mem_cons_self)
  have increasing := inv.increasing
  rw [shape] at increasing
  obtain ⟨first, increasing⟩ := List.pairwise_cons.mp increasing
  obtain ⟨remaining, perm, sorted⟩ :=
    @foldl_release α _ { state with ready, order := state.order ++ [node] }
      (dependants node) (graph.dependants_nodup node listed) (increasing.imp le_of_lt)
  change ∀ other, (emit dependants state node ready).remainingPrerequisites other =
    state.remainingPrerequisites other - if other ∈ dependants node then 1 else 0 at remaining
  change (emit dependants state node ready).ready.Perm
    (ready ++ (dependants node).filter fun other => state.remainingPrerequisites other = 1) at perm
  change (emit dependants state node ready).ready.Pairwise (· ≤ ·) at sorted
  have depends : ∀ other, other ∈ dependants node ↔ other ∈ nodes ∧ node ∈ prerequisites other :=
    graph.mem_dependants_iff node listed
  have apart : node ∉ prerequisites node := fun edge =>
    graph.acyclic node (.single ⟨listed, edge⟩)
  have member_iff : ∀ other, other ∈ (emit dependants state node ready).ready ↔
      other ∈ nodes ∧ other ∉ state.order ++ [node] ∧ prerequisites other ⊆ state.order ++ [node] := by
    intro other
    rw [perm.mem_iff, List.mem_append, List.mem_filter, depends, decide_eq_true_iff]
    constructor
    · rintro (waiting | ⟨⟨known, edge⟩, last⟩)
      · obtain ⟨known, unemitted, before⟩ :=
          (inv.mem_ready_iff other).mp (shape ▸ List.mem_cons_of_mem node waiting)
        refine ⟨known, ?_, List.Subset.trans before (List.subset_append_left _ _)⟩
        rw [List.mem_append, List.mem_singleton]
        rintro (member | rfl)
        · exact unemitted member
        · exact lt_irrefl other (first other waiting)
      · refine ⟨known, ?_, fun prerequisite needed => ?_⟩
        · rw [List.mem_append, List.mem_singleton]
          rintro (member | rfl)
          · exact fresh (inv.respects.subset_of_mem member edge)
          · exact apart edge
        · -- the node is the one prerequisite that was awaited
          have count := length_awaited (graph.prerequisites_nodup other known) fresh
          have single := inv.counted other known
          rw [last, count, if_pos edge] at single
          have none : (prerequisites other).filter (· ∉ state.order ++ [node]) = [] :=
            List.length_eq_zero_iff.mp (by omega)
          by_contra missing
          have kept : prerequisite ∈ (prerequisites other).filter (· ∉ state.order ++ [node]) :=
            List.mem_filter.mpr ⟨needed, decide_eq_true missing⟩
          rw [none] at kept
          exact List.not_mem_nil kept
    · rintro ⟨known, unemitted, before⟩
      rw [List.mem_append, List.mem_singleton, not_or] at unemitted
      by_cases edge : node ∈ prerequisites other
      · refine Or.inr ⟨⟨known, edge⟩, ?_⟩
        have count := length_awaited (graph.prerequisites_nodup other known) fresh
        have none : (prerequisites other).filter (· ∉ state.order ++ [node]) = [] :=
          List.filter_eq_nil_iff.mpr fun prerequisite needed missing =>
            of_decide_eq_true missing (before needed)
        rw [none, if_pos edge] at count
        rw [inv.counted other known, count]
        rfl
      · refine Or.inl ?_
        have waiting : other ∈ state.ready := by
          refine (inv.mem_ready_iff other).mpr ⟨known, unemitted.1, fun prerequisite needed => ?_⟩
          obtain member | same := List.mem_append.mp (before needed)
          · exact member
          · exact absurd (List.mem_singleton.mp same ▸ needed) edge
        rw [shape] at waiting
        exact (List.mem_cons.mp waiting).resolve_left unemitted.2
  refine
    { nodup := ?_
      subset := ?_
      respects := ?_
      greedy := ?_
      increasing := ?_
      mem_ready_iff := ?_
      counted := ?_ }
  · rw [emit_order]
    exact List.nodup_append.mpr ⟨inv.nodup, List.nodup_singleton node, fun old member new same => by
      rintro rfl
      exact fresh (List.mem_singleton.mp same ▸ member)⟩
  · rw [emit_order]
    exact List.append_subset.mpr ⟨inv.subset, fun other member =>
      List.mem_singleton.mp member ▸ listed⟩
  · rw [emit_order]
    exact inv.respects.concat behind
  · rw [emit_order]
    refine inv.greedy.concat fun other known unemitted before => ?_
    have waiting : other ∈ state.ready := (inv.mem_ready_iff other).mpr ⟨known, unemitted, before⟩
    rw [shape] at waiting
    obtain rfl | waiting := List.mem_cons.mp waiting
    · exact le_refl other
    · exact le_of_lt (first other waiting)
  · have distinct : (emit dependants state node ready).ready.Nodup := by
      rw [perm.nodup_iff]
      refine List.nodup_append.mpr ⟨increasing.imp ne_of_lt,
        (graph.dependants_nodup node listed).filter _, ?_⟩
      rintro old waiting new released rfl
      have edge := ((depends old).mp (List.mem_filter.mp released).1).2
      have before := ((inv.mem_ready_iff old).mp (shape ▸ List.mem_cons_of_mem node waiting)).2.2
      exact fresh (before edge)
    exact sorted.imp₂ (fun _ _ le apart => lt_of_le_of_ne le apart) distinct
  · rw [emit_order]
    exact member_iff
  · intro other known
    have count := length_awaited (graph.prerequisites_nodup other known) fresh
    rw [remaining, emit_order, inv.counted other known, count]
    by_cases edge : node ∈ prerequisites other
    · rw [if_pos edge, if_pos ((depends other).mpr ⟨known, edge⟩)]
      push_cast
      omega
    · rw [if_neg edge, if_neg fun member => edge ((depends other).mp member).2]
      push_cast
      omega

theorem Graph.invariant_start :
    Invariant prerequisites nodes (start prerequisites nodes) where
  nodup := List.nodup_nil
  subset := List.nil_subset nodes
  respects := fun front node back shape => by simp [start] at shape
  greedy := fun front node back shape => by simp [start] at shape
  increasing := graph.increasing.filter _
  mem_ready_iff := by simp [start, List.subset_nil]
  counted := by simp [start]

section

variable (inv : Invariant prerequisites nodes state)
include inv

theorem Invariant.complete (empty : state.ready = []) : state.order.Perm nodes := by
  refine (List.perm_ext_iff_of_nodup inv.nodup (graph.increasing.imp ne_of_lt)).mpr fun node =>
    ⟨fun member => inv.subset member, fun listed => ?_⟩
  by_contra missing
  obtain ⟨source, member, waits, settled⟩ :=
    @Graph.exists_source α _ _ _ _ node graph (· ∉ state.order) listed missing
  have ready : source ∈ state.ready := (inv.mem_ready_iff source).mpr
    ⟨member, waits, fun prerequisite edge => not_not.mp (settled prerequisite edge)⟩
  rw [empty] at ready
  exact List.not_mem_nil ready

theorem Invariant.after_run {steps : Nat} (enough : nodes.length ≤ state.order.length + steps) :
    Invariant prerequisites nodes (run dependants steps state) ∧
      (run dependants steps state).ready = [] := by
  induction steps generalizing state with
  | zero =>
      refine ⟨inv, List.eq_nil_iff_forall_not_mem.mpr fun node member => ?_⟩
      obtain ⟨listed, fresh, _⟩ := (inv.mem_ready_iff node).mp member
      have shorter : (state.order ++ [node]).length ≤ nodes.length := by
        refine List.Subperm.length_le (List.subperm_of_subset ?_ ?_)
        · refine List.nodup_append.mpr ⟨inv.nodup, List.nodup_singleton node, ?_⟩
          rintro old member new same rfl
          exact fresh (List.mem_singleton.mp same ▸ member)
        · exact List.append_subset.mpr ⟨inv.subset, fun other member =>
            List.mem_singleton.mp member ▸ listed⟩
      rw [List.length_append, List.length_singleton] at shorter
      omega
  | succ steps induction =>
      cases shape : state.ready with
      | nil =>
          rw [run_of_ready_nil shape]
          exact ⟨inv, shape⟩
      | cons node ready =>
          rw [run_succ_of_ready shape]
          refine induction (inv.after_emit graph shape) ?_
          rw [emit_order, List.length_append, List.length_singleton]
          omega

theorem Invariant.run_least {steps : Nat} {completion : List α} (enough : completion.length ≤ steps)
    (perm : (state.order ++ completion).Perm nodes)
    (respects : Respects prerequisites (state.order ++ completion)) :
    ∃ tail, (run dependants steps state).order = state.order ++ tail ∧
      (tail = completion ∨ List.Lex (· < ·) tail completion) := by
  induction completion generalizing state steps with
  | nil =>
      have empty : state.ready = [] := by
        refine List.eq_nil_iff_forall_not_mem.mpr fun node member => ?_
        obtain ⟨listed, fresh, _⟩ := (inv.mem_ready_iff node).mp member
        rw [List.append_nil] at perm
        exact fresh (perm.mem_iff.mpr listed)
      refine ⟨[], ?_, Or.inl rfl⟩
      rw [run_of_ready_nil empty, List.append_nil]
  | cons next completion induction =>
      have distinct : (state.order ++ next :: completion).Nodup :=
        perm.nodup_iff.mpr (graph.increasing.imp ne_of_lt)
      have ready : next ∈ state.ready := by
        refine (inv.mem_ready_iff next).mpr ⟨perm.mem_iff.mp (by simp), ?_,
          respects state.order next completion rfl⟩
        intro member
        exact List.disjoint_of_nodup_append distinct member List.mem_cons_self
      obtain ⟨steps, rfl⟩ : ∃ fewer, steps = fewer + 1 :=
        ⟨steps - 1, by rw [List.length_cons] at enough; omega⟩
      cases shape : state.ready with
      | nil =>
          rw [shape] at ready
          exact absurd ready List.not_mem_nil
      | cons node rest =>
          have after := inv.after_emit graph shape
          have increasing := inv.increasing
          rw [shape] at ready increasing
          rw [run_succ_of_ready shape]
          by_cases same : next = node
          · subst same
            have shape' : (emit dependants state next rest).order ++ completion =
                state.order ++ next :: completion := by
              rw [emit_order, List.append_assoc, List.singleton_append]
            have fewer : completion.length ≤ steps := Nat.le_of_succ_le_succ enough
            obtain ⟨tail, order, least⟩ :=
              induction after fewer (shape' ▸ perm) (shape' ▸ respects)
            refine ⟨next :: tail, ?_, ?_⟩
            · rw [order, emit_order, List.append_assoc, List.singleton_append]
            · obtain rfl | smaller := least
              · exact Or.inl rfl
              · exact Or.inr (.cons smaller)
          · have less : node < next :=
              (List.pairwise_cons.mp increasing).1 next ((List.mem_cons.mp ready).resolve_left same)
            obtain ⟨tail, order⟩ := run_order_append
              (emit dependants state node rest) steps
            refine ⟨node :: tail, ?_, Or.inr (.rel less)⟩
            rw [order, emit_order, List.append_assoc, List.singleton_append]

end

theorem Graph.order_spec :
    (run dependants nodes.length (start prerequisites nodes)).ready = [] ∧
      (order prerequisites dependants nodes).Perm nodes ∧
      Respects prerequisites (order prerequisites dependants nodes) ∧
      Greedy prerequisites nodes (order prerequisites dependants nodes) ∧
      ∀ candidate : List α, candidate.Perm nodes → Respects prerequisites candidate →
        order prerequisites dependants nodes = candidate ∨
          List.Lex (· < ·) (order prerequisites dependants nodes) candidate := by
  obtain ⟨inv, empty⟩ := graph.invariant_start.after_run graph (Nat.le_add_left _ _)
  refine ⟨empty, inv.complete graph empty, inv.respects, inv.greedy, fun candidate perm respects => ?_⟩
  obtain ⟨tail, order, least⟩ := graph.invariant_start.run_least graph
    (Nat.le_of_eq perm.length_eq) perm respects
  rw [TopologicalOrder.order, order]
  exact least

end

end TopologicalOrder
end Dalph
