import Dalph.Foundation.Worklist

/-!
# Strongly connected components

A depth-first search numbers the nodes in the order in which it enters them and keeps the entered
nodes on a stack.  The low link of a node is the number of some node on the stack that it reaches.
When the search leaves a node whose low link is its own number, the nodes above it on the stack are
its strongly connected component.
-/

namespace Dalph
namespace StronglyConnected

open Worklist (Reaches)

/-- Nodes entered so far, in numbers and on the stack, and the components found. -/
structure State (α : Type) where
  nextIndex : Nat
  indexes : α → Option Nat
  /-- Read only at entered nodes. -/
  lowLinks : α → Nat
  /-- The top comes first. -/
  stack : List α
  onStack : α → Bool
  components : List (List α)

variable {α : Type} [DecidableEq α] {adjacent : α → List α} {nodes path visited : List α}
  {before state after : State α} {node next other : α}

namespace State

def initial : State α :=
  { nextIndex := 0
    indexes := fun _ => none
    lowLinks := fun _ => 0
    stack := []
    onStack := fun _ => false
    components := [] }

def index (state : State α) (node : α) : Nat :=
  (state.indexes node).getD 0

/-- Give a node the next number and put it on the stack. -/
def enter (state : State α) (node : α) : State α :=
  { state with
    nextIndex := state.nextIndex + 1
    indexes := Function.update state.indexes node (some state.nextIndex)
    lowLinks := Function.update state.lowLinks node state.nextIndex
    stack := node :: state.stack
    onStack := Function.update state.onStack node true }

def lower (state : State α) (node : α) (bound : Nat) : State α :=
  { state with
    lowLinks := Function.update state.lowLinks node (min (state.lowLinks node) bound) }

/-- Nodes down to the root in the order in which they are taken, and the stack below it. -/
def takeThrough (root : α) : List α → List α × List α
  | [] => ([], [])
  | member :: stack =>
      if member = root then ([member], stack)
      else (member :: (takeThrough root stack).1, (takeThrough root stack).2)

def recordComponent (state : State α) (root : α) : State α :=
  let (component, stack) := takeThrough root state.stack
  { state with
    stack := stack
    onStack := fun node => state.onStack node && decide (node ∉ component)
    components := state.components ++ [component] }

/-- Follow one edge: descend into a new node, or lower the low link to a node on the stack. -/
def follow (descend : State α → α → State α) (node : α) (state : State α) (next : α) : State α :=
  if state.indexes next = none then
    let left := descend state next
    left.lower node (left.lowLinks next)
  else if state.onStack next then state.lower node (state.index next)
  else state

end State

open State

def visit (adjacent : α → List α) : Nat → State α → α → State α
  | 0, state, _ => state
  | fuel + 1, state, node =>
      let explored := (adjacent node).foldl (follow (visit adjacent fuel) node) (state.enter node)
      if explored.lowLinks node = explored.index node then explored.recordComponent node
      else explored

def visitNew (adjacent : α → List α) (fuel : Nat) (state : State α) (node : α) : State α :=
  if state.indexes node = none then visit adjacent fuel state node else state

def search (adjacent : α → List α) (nodes : List α) : State α :=
  nodes.foldl (visitNew adjacent nodes.length) initial

def components (adjacent : α → List α) (nodes : List α) : List (List α) :=
  (search adjacent nodes).components

/-! ## The search invariant -/

def IsComponent (adjacent : α → List α) (component : List α) : Prop :=
  component ≠ [] ∧ component.Nodup ∧
    ∀ node ∈ component, ∀ other, other ∈ component ↔
      Reaches adjacent node other ∧ Reaches adjacent other node

/-- What holds while the nodes of `path` are entered and not yet left. -/
structure Invariant (adjacent : α → List α) (nodes path : List α) (state : State α) : Prop where
  onStack_iff : ∀ node, state.onStack node = true ↔ node ∈ state.stack
  ordered : state.stack.Pairwise fun upper lower => state.index lower < state.index upper
  entered : ∀ node ∈ state.stack, state.indexes node ≠ none
  listed : ∀ node, state.indexes node ≠ none → node ∈ nodes
  numbered : ∀ node, state.indexes node ≠ none → state.index node < state.nextIndex
  path_subset : path ⊆ state.stack
  /-- Lower nodes of the stack reach upper ones. -/
  ascends : ∀ lower ∈ state.stack, ∀ upper ∈ state.stack, state.index lower ≤ state.index upper →
    Reaches adjacent lower upper
  /-- Every node of the stack reaches one on the path that is not above it. -/
  returns : ∀ node ∈ state.stack, ∃ active ∈ path, state.index active ≤ state.index node ∧
    Reaches adjacent node active
  explored : ∀ node, state.indexes node ≠ none → node ∉ path → ∀ next ∈ adjacent node,
    state.indexes next ≠ none
  settled : ∀ node, state.indexes node ≠ none → node ∉ state.stack →
    ∃ component ∈ state.components, node ∈ component
  taken : ∀ component ∈ state.components, IsComponent adjacent component ∧
    ∀ node ∈ component, state.indexes node ≠ none ∧ node ∉ state.stack
  disjoint : state.components.Pairwise List.Disjoint

/-- What a search leaves as it found it. -/
structure Extends (before after : State α) : Prop where
  nextIndex : before.nextIndex ≤ after.nextIndex
  indexes : ∀ node, before.indexes node ≠ none → after.indexes node = before.indexes node
  lowLinks : ∀ node, before.indexes node ≠ none → after.lowLinks node = before.lowLinks node
  stack : ∃ added, after.stack = added ++ before.stack ∧
    ∀ node ∈ added, before.indexes node = none
  later : ∀ node, before.indexes node = none → after.indexes node ≠ none →
    before.nextIndex ≤ after.index node

namespace Extends

omit [DecidableEq α] in
theorem refl (state : State α) : Extends state state :=
  ⟨Nat.le_refl _, fun _ _ => rfl, fun _ _ => rfl, ⟨[], rfl, by simp⟩,
    fun _ fresh known => absurd fresh known⟩

omit [DecidableEq α] in
theorem index_eq (grown : Extends before after) (known : before.indexes node ≠ none) :
    after.index node = before.index node := by
  unfold State.index
  rw [grown.indexes node known]

omit [DecidableEq α] in
theorem entered (grown : Extends before after) (known : before.indexes node ≠ none) :
    after.indexes node ≠ none := by
  rw [grown.indexes node known]
  exact known

omit [DecidableEq α] in
theorem stack_subset (grown : Extends before after) : before.stack ⊆ after.stack := by
  obtain ⟨added, shape, _⟩ := grown.stack
  rw [shape]
  exact List.subset_append_right added before.stack

omit [DecidableEq α] in
theorem mem_stack_iff (grown : Extends before after) (known : before.indexes node ≠ none) :
    node ∈ after.stack ↔ node ∈ before.stack := by
  obtain ⟨added, shape, fresh⟩ := grown.stack
  rw [shape, List.mem_append]
  exact ⟨fun member => member.resolve_left fun new => known (fresh node new), Or.inr⟩

omit [DecidableEq α] in
theorem trans (first : Extends before state) (second : Extends state after) :
    Extends before after where
  nextIndex := Nat.le_trans first.nextIndex second.nextIndex
  indexes := fun node known =>
    (second.indexes node (first.entered known)).trans (first.indexes node known)
  lowLinks := fun node known =>
    (second.lowLinks node (first.entered known)).trans (first.lowLinks node known)
  stack := by
    obtain ⟨added, shape, fresh⟩ := first.stack
    obtain ⟨more, shape', fresh'⟩ := second.stack
    refine ⟨more ++ added, by rw [shape', shape, List.append_assoc], fun node member => ?_⟩
    obtain member | member := List.mem_append.mp member
    · by_contra known
      exact first.entered known (fresh' node member)
    · exact fresh node member
  later := by
    intro node fresh known
    by_cases fresh' : state.indexes node = none
    · exact Nat.le_trans first.nextIndex (second.later node fresh' known)
    · rw [second.index_eq fresh']
      exact first.later node fresh fresh'

end Extends

def unentered (nodes : List α) (state : State α) : Finset α :=
  nodes.toFinset.filter fun node => state.indexes node = none

theorem Extends.unentered_subset (grown : Extends before after) :
    unentered nodes after ⊆ unentered nodes before := by
  intro node member
  obtain ⟨listed, fresh⟩ := Finset.mem_filter.mp member
  refine Finset.mem_filter.mpr ⟨listed, ?_⟩
  by_contra known
  exact grown.entered known fresh

/-! ## Entering a node and following its edges -/

theorem index_enter_self : (before.enter node).index node = before.nextIndex := by
  simp [State.index, State.enter]

theorem indexes_enter_of_ne (apart : other ≠ node) :
    (before.enter node).indexes other = before.indexes other :=
  Function.update_of_ne apart _ _

theorem index_enter_of_ne (apart : other ≠ node) :
    (before.enter node).index other = before.index other := by
  unfold State.index
  rw [indexes_enter_of_ne apart]

theorem entered_enter_iff :
    (before.enter node).indexes other ≠ none ↔ other = node ∨ before.indexes other ≠ none := by
  by_cases same : other = node
  · subst same
    simp [State.enter]
  · rw [indexes_enter_of_ne same]
    simp [same]

theorem Invariant.lower (inv : Invariant adjacent nodes path state) (node : α) (bound : Nat) :
    Invariant adjacent nodes path (state.lower node bound) :=
  ⟨inv.onStack_iff, inv.ordered, inv.entered, inv.listed, inv.numbered, inv.path_subset,
    inv.ascends, inv.returns, inv.explored, inv.settled, inv.taken, inv.disjoint⟩

/-- A new node that every active node reaches becomes the innermost active one. -/
theorem Invariant.enter (inv : Invariant adjacent nodes path before)
    (fresh : before.indexes node = none) (known : node ∈ nodes)
    (reached : ∀ active ∈ path, Reaches adjacent active node) :
    Invariant adjacent nodes (node :: path) (before.enter node) := by
  have apart : ∀ other ∈ before.stack, other ≠ node := by
    rintro other member rfl
    exact inv.entered other member fresh
  have kept : ∀ other ∈ before.stack,
      (before.enter node).index other = before.index other :=
    fun other member => index_enter_of_ne (apart other member)
  have below : ∀ other ∈ before.stack, before.index other < before.nextIndex :=
    fun other member => inv.numbered other (inv.entered other member)
  refine
    { onStack_iff := ?_
      ordered := ?_
      entered := ?_
      listed := ?_
      numbered := ?_
      path_subset := ?_
      ascends := ?_
      returns := ?_
      explored := ?_
      settled := ?_
      taken := ?_
      disjoint := inv.disjoint }
  · intro other
    by_cases same : other = node
    · simp [State.enter, same]
    · simpa [State.enter, same] using inv.onStack_iff other
  · refine List.pairwise_cons.mpr ⟨fun other member => ?_, ?_⟩
    · rw [kept other member, index_enter_self]
      exact below other member
    · refine inv.ordered.imp_of_mem fun first second order => ?_
      rwa [kept _ first, kept _ second]
  · intro other member
    refine entered_enter_iff.mpr ?_
    obtain same | member := List.mem_cons.mp member
    · exact Or.inl same
    · exact Or.inr (inv.entered other member)
  · intro other numbered
    obtain rfl | numbered := entered_enter_iff.mp numbered
    · exact known
    · exact inv.listed other numbered
  · intro other numbered
    by_cases same : other = node
    · rw [same, index_enter_self]
      exact Nat.lt_succ_self _
    · rw [index_enter_of_ne same]
      have less := inv.numbered other ((entered_enter_iff.mp numbered).resolve_left same)
      exact Nat.lt_succ_of_lt less
  · exact List.cons_subset_cons node inv.path_subset
  · intro lower lowerMember upper upperMember order
    obtain rfl | lowerBefore := List.mem_cons.mp lowerMember
    · obtain rfl | upperBefore := List.mem_cons.mp upperMember
      · exact .refl
      · rw [index_enter_self, kept upper upperBefore] at order
        exact absurd (below upper upperBefore) (by omega)
    · obtain rfl | upperBefore := List.mem_cons.mp upperMember
      · obtain ⟨active, member, _, path⟩ := inv.returns lower lowerBefore
        exact path.trans (reached active member)
      · rw [kept lower lowerBefore, kept upper upperBefore] at order
        exact inv.ascends lower lowerBefore upper upperBefore order
  · intro other member
    obtain rfl | member := List.mem_cons.mp member
    · exact ⟨other, List.mem_cons_self, Nat.le_refl _, .refl⟩
    · obtain ⟨active, activeMember, order, path⟩ := inv.returns other member
      refine ⟨active, List.mem_cons_of_mem node activeMember, ?_, path⟩
      rwa [kept active (inv.path_subset activeMember), kept other member]
  · intro other numbered inactive next edge
    have apart : other ≠ node := fun same => inactive (same ▸ List.mem_cons_self)
    refine entered_enter_iff.mpr (Or.inr ?_)
    exact inv.explored other ((entered_enter_iff.mp numbered).resolve_left apart)
      (fun member => inactive (List.mem_cons_of_mem node member)) next edge
  · intro other numbered absent
    have apart : other ≠ node := fun same => absent (same ▸ List.mem_cons_self)
    exact inv.settled other ((entered_enter_iff.mp numbered).resolve_left apart)
      fun member => absent (List.mem_cons_of_mem node member)
  · intro component member
    obtain ⟨whole, left⟩ := inv.taken component member
    refine ⟨whole, fun other inside => ?_⟩
    obtain ⟨numbered, absent⟩ := left other inside
    refine ⟨entered_enter_iff.mpr (Or.inr numbered), fun member => ?_⟩
    obtain rfl | member := List.mem_cons.mp member
    · exact numbered fresh
    · exact absent member

/-- The state between two edges of an active node: what was entered since, and what the low link of
the node is a bound for. -/
structure Exploring (adjacent : α → List α) (nodes path : List α) (before : State α) (node : α)
    (followed : List α) (state : State α) : Prop where
  inv : Invariant adjacent nodes (node :: path) state
  grown : Extends before state
  fresh : before.indexes node = none
  number : state.indexes node = some before.nextIndex
  above : ∃ added, state.stack = added ++ node :: before.stack ∧
    ∀ other ∈ added, before.indexes other = none ∧ other ≠ node
  lowLink_le : state.lowLinks node ≤ before.nextIndex
  attained : ∃ target ∈ state.stack, state.index target = state.lowLinks node ∧
    Reaches adjacent node target
  bounds : ∀ other ∈ state.stack, other ≠ node → before.indexes other = none →
    ∀ next ∈ adjacent other, next ∈ before.stack → state.lowLinks node ≤ before.index next
  followed : ∀ next ∈ followed, state.indexes next ≠ none ∧
    (next ∈ before.stack → state.lowLinks node ≤ before.index next)

/-- What the search from a new node has done when it leaves the node. -/
structure Visited (adjacent : α → List α) (nodes path : List α) (before : State α) (node : α)
    (after : State α) : Prop where
  inv : Invariant adjacent nodes path after
  grown : Extends before after
  entered : after.indexes node ≠ none
  attained : (∃ target ∈ after.stack, after.index target = after.lowLinks node ∧
    Reaches adjacent node target) ∨ before.nextIndex ≤ after.lowLinks node
  bounds : ∀ other ∈ after.stack, before.indexes other = none →
    ∀ next ∈ adjacent other, next ∈ before.stack → after.lowLinks node ≤ before.index next

variable {followed : List α}

theorem Invariant.exploring (inv : Invariant adjacent nodes path before)
    (fresh : before.indexes node = none) (known : node ∈ nodes)
    (reached : ∀ active ∈ path, Reaches adjacent active node) :
    Exploring adjacent nodes path before node [] (before.enter node) := by
  have apart : ∀ other, before.indexes other ≠ none → other ≠ node := by
    rintro other numbered rfl
    exact numbered fresh
  refine
    { inv := inv.enter fresh known reached
      grown :=
        { nextIndex := Nat.le_succ _
          indexes := fun other numbered => indexes_enter_of_ne (apart other numbered)
          lowLinks := fun other numbered => Function.update_of_ne (apart other numbered) _ _
          stack := ⟨[node], rfl, fun other member => ?_⟩
          later := fun other unnumbered numbered => ?_ }
      fresh
      number := Function.update_self _ _ _
      above := ⟨[], rfl, by simp⟩
      lowLink_le := Nat.le_of_eq (Function.update_self _ _ _)
      attained := ⟨node, List.mem_cons_self, ?_, .refl⟩
      bounds := fun other member distinct unnumbered => ?_
      followed := by simp }
  · rw [List.mem_singleton.mp member]
    exact fresh
  · obtain rfl | numbered := entered_enter_iff.mp numbered
    · exact Nat.le_of_eq index_enter_self.symm
    · exact absurd unnumbered numbered
  · rw [index_enter_self]
    exact (Function.update_self node before.nextIndex before.lowLinks).symm
  · exact absurd unnumbered (inv.entered other ((List.mem_cons.mp member).resolve_left distinct))

namespace Exploring

omit [DecidableEq α] in
theorem entered (exploring : Exploring adjacent nodes path before node followed state) :
    state.indexes node ≠ none := by
  rw [exploring.number]
  exact Option.some_ne_none _

omit [DecidableEq α] in
theorem index_eq (exploring : Exploring adjacent nodes path before node followed state) :
    state.index node = before.nextIndex := by
  unfold State.index
  rw [exploring.number]
  rfl

/-- After an edge to `next`, a bound that holds for what was entered and is attained on the stack
lowers the low link. -/
theorem absorb {bound : Nat} (exploring : Exploring adjacent nodes path before node followed state)
    (inv : Invariant adjacent nodes (node :: path) after) (grown : Extends state after)
    (attained : (∃ target ∈ after.stack, after.index target = bound ∧
      Reaches adjacent node target) ∨ before.nextIndex ≤ bound)
    (bounds : ∀ other ∈ after.stack, state.indexes other = none →
      ∀ next ∈ adjacent other, next ∈ before.stack → bound ≤ before.index next)
    (entered : after.indexes next ≠ none)
    (bounded : next ∈ before.stack → bound ≤ before.index next) :
    Exploring adjacent nodes path before node (followed ++ [next]) (after.lower node bound) := by
  have kept : after.lowLinks node = state.lowLinks node := grown.lowLinks node exploring.entered
  have value : (after.lower node bound).lowLinks node = min (state.lowLinks node) bound := by
    rw [← kept]
    exact Function.update_self _ _ _
  have total := exploring.grown.trans grown
  obtain ⟨added, shape, unnumbered⟩ := exploring.above
  obtain ⟨more, shape', unnumbered'⟩ := grown.stack
  refine
    { inv := inv.lower node bound
      grown :=
        { nextIndex := total.nextIndex
          indexes := total.indexes
          lowLinks := fun other numbered => ?_
          stack := total.stack
          later := total.later }
      fresh := exploring.fresh
      number := (grown.indexes node exploring.entered).trans exploring.number
      above := ⟨more ++ added, ?_, fun other member => ?_⟩
      lowLink_le := ?_
      attained := ?_
      bounds := fun other member apart fresh next edge nextMember => ?_
      followed := fun other member => ?_ }
  · have apart : other ≠ node := fun same => numbered (same ▸ exploring.fresh)
    exact (Function.update_of_ne apart _ _).trans (total.lowLinks other numbered)
  · change after.stack = _
    rw [shape', shape, List.append_assoc]
  · obtain member | member := List.mem_append.mp member
    · have fresh := unnumbered' other member
      refine ⟨?_, fun same => exploring.entered (same ▸ fresh)⟩
      by_contra numbered
      exact exploring.grown.entered numbered fresh
    · exact unnumbered other member
  · rw [value]
    exact Nat.le_trans (Nat.min_le_left _ _) exploring.lowLink_le
  · rw [value]
    by_cases smaller : state.lowLinks node ≤ bound
    · rw [Nat.min_eq_left smaller]
      obtain ⟨target, member, attains, reaches⟩ := exploring.attained
      refine ⟨target, grown.stack_subset member, ?_, reaches⟩
      exact (grown.index_eq (exploring.inv.entered target member)).trans attains
    · obtain found | large := attained
      · rw [Nat.min_eq_right (Nat.le_of_not_le smaller)]
        exact found
      · exact absurd (Nat.le_trans exploring.lowLink_le large) smaller
  · rw [value]
    by_cases numbered : state.indexes other = none
    · exact Nat.le_trans (Nat.min_le_right _ _) (bounds other member numbered next edge nextMember)
    · have present : other ∈ state.stack := (grown.mem_stack_iff numbered).mp member
      exact Nat.le_trans (Nat.min_le_left _ _)
        (exploring.bounds other present apart fresh next edge nextMember)
  · rw [value]
    obtain member | same := List.mem_append.mp member
    · obtain ⟨numbered, below⟩ := exploring.followed other member
      exact ⟨grown.entered numbered, fun present =>
        Nat.le_trans (Nat.min_le_left _ _) (below present)⟩
    · rw [List.mem_singleton.mp same]
      exact ⟨entered, fun present => Nat.le_trans (Nat.min_le_right _ _) (bounded present)⟩

/-- One edge is followed: into a new node, to a node on the stack, or to one left for good. -/
theorem follow {descend : State α → α → State α}
    (initial : Invariant adjacent nodes path before)
    (exploring : Exploring adjacent nodes path before node followed state)
    (edge : next ∈ adjacent node)
    (descends : state.indexes next = none →
      Visited adjacent nodes (node :: path) state next (descend state next)) :
    Exploring adjacent nodes path before node (followed ++ [next])
      (state.follow descend node next) := by
  unfold State.follow
  by_cases fresh : state.indexes next = none
  · rw [if_pos fresh]
    have visited := descends fresh
    have number : before.nextIndex ≤ state.nextIndex := exploring.grown.nextIndex
    refine exploring.absorb visited.inv visited.grown ?_ ?_ visited.entered ?_
    · obtain ⟨target, member, attains, reaches⟩ | large := visited.attained
      · exact Or.inl ⟨target, member, attains, .head edge reaches⟩
      · exact Or.inr (Nat.le_trans number large)
    · intro other member unnumbered after afterEdge present
      rw [← exploring.grown.index_eq (initial.entered after present)]
      exact visited.bounds other member unnumbered after afterEdge
        (exploring.grown.stack_subset present)
    · intro present
      exact absurd fresh (exploring.inv.entered next (exploring.grown.stack_subset present))
  · rw [if_neg fresh]
    by_cases present : next ∈ state.stack
    · rw [if_pos ((exploring.inv.onStack_iff next).mpr present)]
      refine exploring.absorb exploring.inv (.refl state)
        (Or.inl ⟨next, present, rfl, .single edge⟩) ?_ fresh ?_
      · intro other member unnumbered
        exact absurd unnumbered (exploring.inv.entered other member)
      · intro below
        exact Nat.le_of_eq (exploring.grown.index_eq (initial.entered next below))
    · rw [if_neg fun flag => present ((exploring.inv.onStack_iff next).mp flag)]
      refine { exploring with followed := fun other member => ?_ }
      obtain member | same := List.mem_append.mp member
      · exact exploring.followed other member
      · rw [List.mem_singleton.mp same]
        exact ⟨fresh, fun below => absurd (exploring.grown.stack_subset below) present⟩

theorem explore {descend : State α → α → State α} {remaining : List α}
    (initial : Invariant adjacent nodes path before)
    (descends : ∀ followed state next,
      Exploring adjacent nodes path before node followed state → next ∈ adjacent node →
      state.indexes next = none →
      Visited adjacent nodes (node :: path) state next (descend state next))
    (exploring : Exploring adjacent nodes path before node followed state)
    (edges : remaining ⊆ adjacent node) :
    Exploring adjacent nodes path before node (followed ++ remaining)
      (remaining.foldl (State.follow descend node) state) := by
  induction remaining generalizing followed state with
  | nil => simpa using exploring
  | cons next remaining induction =>
      have edge : next ∈ adjacent node := edges List.mem_cons_self
      have further := follow initial exploring edge (descends followed state next exploring edge)
      have rest := induction further fun other member => edges (List.mem_cons_of_mem next member)
      rwa [List.append_assoc] at rest

/-! ## Leaving a node -/

section

variable (exploring : Exploring adjacent nodes path before node (adjacent node) state)
include exploring

theorem explored (numbered : state.indexes other ≠ none) (inactive : other ∉ path)
    (edge : next ∈ adjacent other) : state.indexes next ≠ none := by
  by_cases same : other = node
  · exact (exploring.followed next (same ▸ edge)).1
  · refine exploring.inv.explored other numbered ?_ next edge
    rintro (_ | ⟨_, member⟩)
    · exact same rfl
    · exact inactive member

theorem lowLink_le_of_edge (member : other ∈ state.stack) (unnumbered : before.indexes other = none)
    (edge : next ∈ adjacent other) (present : next ∈ before.stack) :
    state.lowLinks node ≤ before.index next := by
  by_cases same : other = node
  · exact (exploring.followed next (same ▸ edge)).2 present
  · exact exploring.bounds other member same unnumbered next edge present

theorem leave (smaller : state.lowLinks node ≠ state.index node) :
    Visited adjacent nodes path before node state where
  inv :=
    { exploring.inv with
      path_subset := fun active member =>
        exploring.inv.path_subset (List.mem_cons_of_mem node member)
      returns := by
        have less : state.lowLinks node < state.index node :=
          Nat.lt_of_le_of_ne (exploring.index_eq ▸ exploring.lowLink_le) smaller
        intro other member
        obtain ⟨active, activeMember, order, reaches⟩ := exploring.inv.returns other member
        obtain same | activeMember := List.mem_cons.mp activeMember
        · -- the node itself returns to an older one through its low link
          obtain ⟨target, targetMember, attains, toTarget⟩ := exploring.attained
          obtain ⟨older, olderMember, below, toOlder⟩ := exploring.inv.returns target targetMember
          rw [same] at order reaches
          have apart : older ≠ node := by
            intro same
            rw [same] at below
            omega
          refine ⟨older, (List.mem_cons.mp olderMember).resolve_left apart, by omega, ?_⟩
          exact (reaches.trans toTarget).trans toOlder
        · exact ⟨active, activeMember, order, reaches⟩
      explored := fun other numbered inactive next edge =>
        exploring.explored numbered inactive edge }
  grown := exploring.grown
  entered := exploring.entered
  attained := Or.inl exploring.attained
  bounds := fun _ member unnumbered _ edge present =>
    exploring.lowLink_le_of_edge member unnumbered edge present

end

omit [DecidableEq α] in
theorem mem_before_iff (initial : Invariant adjacent nodes path before)
    (exploring : Exploring adjacent nodes path before node followed state)
    (member : other ∈ state.stack) : before.indexes other = none ↔ other ∉ before.stack := by
  obtain ⟨added, shape, unnumbered⟩ := exploring.above
  constructor
  · intro fresh present
    exact initial.entered other present fresh
  · intro absent
    rw [shape, List.mem_append, List.mem_cons] at member
    obtain member | rfl | present := member
    · exact (unnumbered other member).1
    · exact exploring.fresh
    · exact absurd present absent

omit [DecidableEq α] in
theorem reaches_each_other (initial : Invariant adjacent nodes path before)
    (exploring : Exploring adjacent nodes path before node followed state)
    (member : other ∈ state.stack) (unnumbered : before.indexes other = none) :
    Reaches adjacent node other ∧ Reaches adjacent other node := by
  have present : node ∈ state.stack := exploring.inv.path_subset List.mem_cons_self
  have least : state.index node ≤ state.index other := by
    rw [exploring.index_eq]
    exact exploring.grown.later other unnumbered (exploring.inv.entered other member)
  refine ⟨exploring.inv.ascends node present other member least, ?_⟩
  obtain ⟨active, activeMember, _, reaches⟩ := exploring.inv.returns other member
  obtain rfl | activeMember := List.mem_cons.mp activeMember
  · exact reaches
  · have older : active ∈ before.stack := initial.path_subset activeMember
    have less : state.index active < state.index node := by
      rw [exploring.index_eq, exploring.grown.index_eq (initial.entered active older)]
      exact initial.numbered active (initial.entered active older)
    exact reaches.trans (exploring.inv.ascends active (exploring.grown.stack_subset older) node
      present (Nat.le_of_lt less))

theorem mem_of_reaches (initial : Invariant adjacent nodes path before)
    (exploring : Exploring adjacent nodes path before node (adjacent node) state)
    (own : state.lowLinks node = state.index node) (reaches : Reaches adjacent node other)
    (returns : Reaches adjacent other node) :
    other ∈ state.stack ∧ before.indexes other = none := by
  have root : node ∈ state.stack := exploring.inv.path_subset List.mem_cons_self
  induction reaches with
  | refl => exact ⟨root, exploring.fresh⟩
  | @tail previous last toPrevious edge induction =>
      obtain ⟨member, unnumbered⟩ := induction (.head edge returns)
      have inactive : previous ∉ path := fun active =>
        initial.entered previous (initial.path_subset active) unnumbered
      have numbered : state.indexes last ≠ none :=
        exploring.explored (exploring.inv.entered previous member) inactive edge
      have present : last ∈ state.stack := by
        -- a component taken before would hold the node, which is still on the stack
        by_contra absent
        obtain ⟨component, taken, inside⟩ := exploring.inv.settled last numbered absent
        obtain ⟨⟨_, _, closed⟩, left⟩ := exploring.inv.taken component taken
        have held : node ∈ component := (closed last inside node).mpr ⟨returns, toPrevious.tail edge⟩
        exact (left node held).2 root
      refine ⟨present, (exploring.mem_before_iff initial present).mpr fun older => ?_⟩
      have bound := exploring.lowLink_le_of_edge member unnumbered edge older
      rw [own, exploring.index_eq] at bound
      have less := initial.numbered last (initial.entered last older)
      omega

end Exploring

theorem takeThrough_append {added rest : List α} (absent : node ∉ added) :
    takeThrough node (added ++ node :: rest) = (added ++ [node], rest) := by
  induction added with
  | nil => simp [takeThrough]
  | cons other added induction =>
      rw [List.mem_cons, not_or] at absent
      rw [List.cons_append, takeThrough, if_neg (Ne.symm absent.1), induction absent.2]
      rfl

namespace Exploring

/-- The node and everything above it are one component, and leave the stack as it was before. -/
theorem leaveComponent (initial : Invariant adjacent nodes path before)
    (exploring : Exploring adjacent nodes path before node (adjacent node) state)
    (own : state.lowLinks node = state.index node) :
    Visited adjacent nodes path before node (state.recordComponent node) := by
  obtain ⟨added, shape, unnumbered⟩ := exploring.above
  have absent : node ∉ added := fun member => (unnumbered node member).2 rfl
  have taken : takeThrough node state.stack = (added ++ [node], before.stack) := by
    rw [shape, takeThrough_append absent]
  have recorded : state.recordComponent node =
      { state with
        stack := before.stack
        onStack := fun other => state.onStack other && decide (other ∉ added ++ [node])
        components := state.components ++ [added ++ [node]] } := by
    unfold State.recordComponent
    rw [taken]
  have split : state.stack = (added ++ [node]) ++ before.stack := by
    rw [shape, List.append_assoc, List.singleton_append]
  have distinct : state.stack.Nodup := exploring.inv.ordered.imp fun less same => by
    rw [same] at less
    exact Nat.lt_irrefl _ less
  have member_iff : ∀ other, other ∈ added ++ [node] ↔
      other ∈ state.stack ∧ before.indexes other = none := by
    intro other
    constructor
    · intro member
      have present : other ∈ state.stack := split ▸ List.mem_append_left _ member
      refine ⟨present, (exploring.mem_before_iff initial present).mpr fun older => ?_⟩
      rw [split] at distinct
      exact List.disjoint_of_nodup_append distinct member older
    · rintro ⟨present, fresh⟩
      rw [split] at present
      exact (List.mem_append.mp present).resolve_right fun older =>
        initial.entered other older fresh
  have component : IsComponent adjacent (added ++ [node]) := by
    refine ⟨by simp, ?_, fun first inside other => ?_⟩
    · rw [split] at distinct
      exact (List.nodup_append.mp distinct).1
    · obtain ⟨present, fresh⟩ := (member_iff first).mp inside
      obtain ⟨toFirst, fromFirst⟩ := exploring.reaches_each_other initial present fresh
      constructor
      · intro member
        obtain ⟨present', fresh'⟩ := (member_iff other).mp member
        obtain ⟨toOther, fromOther⟩ := exploring.reaches_each_other initial present' fresh'
        exact ⟨fromFirst.trans toOther, fromOther.trans toFirst⟩
      · rintro ⟨forth, back⟩
        exact (member_iff other).mpr
          (exploring.mem_of_reaches initial own (toFirst.trans forth) (back.trans fromFirst))
  have kept : ∀ other ∈ before.stack, other ∈ state.stack := exploring.grown.stack_subset
  rw [recorded]
  refine
    { inv :=
        { onStack_iff := fun other => ?_
          ordered := ?_
          entered := fun other member => exploring.inv.entered other (kept other member)
          listed := exploring.inv.listed
          numbered := exploring.inv.numbered
          path_subset := initial.path_subset
          ascends := fun lower lowerMember upper upperMember =>
            exploring.inv.ascends lower (kept lower lowerMember) upper (kept upper upperMember)
          returns := fun other member => ?_
          explored := fun other numbered inactive next edge =>
            exploring.explored numbered inactive edge
          settled := fun other numbered left => ?_
          taken := fun taken member => ?_
          disjoint := ?_ }
      grown :=
        { nextIndex := exploring.grown.nextIndex
          indexes := exploring.grown.indexes
          lowLinks := exploring.grown.lowLinks
          stack := ⟨[], rfl, by simp⟩
          later := exploring.grown.later }
      entered := exploring.entered
      attained := Or.inr (Nat.le_of_eq (own.trans exploring.index_eq).symm)
      bounds := fun other member fresh => absurd fresh (initial.entered other member) }
  · dsimp only
    rw [Bool.and_eq_true, decide_eq_true_iff, exploring.inv.onStack_iff, member_iff, not_and]
    constructor
    · rintro ⟨present, numbered⟩
      by_contra older
      exact numbered present ((exploring.mem_before_iff initial present).mpr older)
    · intro older
      exact ⟨kept other older, fun _ => initial.entered other older⟩
  · have ordered := exploring.inv.ordered
    rw [split] at ordered
    exact (List.pairwise_append.mp ordered).2.1
  · obtain ⟨active, activeMember, order, reaches⟩ := initial.returns other member
    refine ⟨active, activeMember, ?_, reaches⟩
    have older := initial.entered active (initial.path_subset activeMember)
    have same := exploring.grown.index_eq older
    have same' := exploring.grown.index_eq (initial.entered other member)
    change state.index active ≤ state.index other
    rwa [same, same']
  · by_cases present : other ∈ state.stack
    · refine ⟨added ++ [node], by simp, (member_iff other).mpr ⟨present, ?_⟩⟩
      exact (exploring.mem_before_iff initial present).mpr left
    · obtain ⟨older, member, inside⟩ := exploring.inv.settled other numbered present
      exact ⟨older, List.mem_append_left _ member, inside⟩
  · obtain older | same := List.mem_append.mp member
    · obtain ⟨whole, left⟩ := exploring.inv.taken taken older
      exact ⟨whole, fun other inside =>
        ⟨(left other inside).1, fun present => (left other inside).2 (kept other present)⟩⟩
    · rw [List.mem_singleton.mp same]
      refine ⟨component, fun other inside => ?_⟩
      obtain ⟨present, fresh⟩ := (member_iff other).mp inside
      exact ⟨exploring.inv.entered other present,
        fun older => initial.entered other older fresh⟩
  · refine List.pairwise_append.mpr ⟨exploring.inv.disjoint, List.pairwise_singleton _ _, ?_⟩
    intro older member last same
    rw [List.mem_singleton.mp same]
    intro other inside inside'
    exact ((exploring.inv.taken older member).2 other inside).2 ((member_iff other).mp inside').1

end Exploring

/-! ## Whole searches -/

/-- A search with a unit of fuel for every node still to be entered does its work. -/
theorem visited_visit {fuel : Nat}
    (closed : ∀ node ∈ nodes, ∀ next ∈ adjacent node, next ∈ nodes)
    (initial : Invariant adjacent nodes path before) (fresh : before.indexes node = none)
    (known : node ∈ nodes) (reached : ∀ active ∈ path, Reaches adjacent active node)
    (enough : (unentered nodes before).card ≤ fuel) :
    Visited adjacent nodes path before node (visit adjacent fuel before node) := by
  induction fuel generalizing path before node with
  | zero =>
      have empty := Finset.card_eq_zero.mp (Nat.le_zero.mp enough)
      have member : node ∈ unentered nodes before :=
        Finset.mem_filter.mpr ⟨List.mem_toFinset.mpr known, fresh⟩
      rw [empty] at member
      exact absurd member (Finset.notMem_empty node)
  | succ fuel induction =>
      have descends : ∀ followed state next,
          Exploring adjacent nodes path before node followed state → next ∈ adjacent node →
          state.indexes next = none →
          Visited adjacent nodes (node :: path) state next (visit adjacent fuel state next) := by
        intro followed state next exploring edge unnumbered
        have fewer : (unentered nodes state).card < (unentered nodes before).card := by
          refine Finset.card_lt_card ((Finset.ssubset_iff_of_subset
            exploring.grown.unentered_subset).mpr ⟨node, ?_, ?_⟩)
          · exact Finset.mem_filter.mpr ⟨List.mem_toFinset.mpr known, fresh⟩
          · intro member
            exact exploring.entered (Finset.mem_filter.mp member).2
        refine induction exploring.inv unnumbered (closed node known next edge) ?_ (by omega)
        intro active member
        obtain rfl | member := List.mem_cons.mp member
        · exact .single edge
        · exact (reached active member).tail edge
      have explored := Exploring.explore initial descends (initial.exploring fresh known reached)
        (List.Subset.refl _)
      rw [List.nil_append] at explored
      unfold visit
      dsimp only
      split
      · rename_i own
        exact explored.leaveComponent initial own
      · rename_i smaller
        exact explored.leave smaller

omit [DecidableEq α] in
theorem invariant_initial : Invariant adjacent nodes [] (initial : State α) := by
  constructor <;> simp [State.initial, State.index]

theorem invariant_foldl {fuel : Nat} {seeds : List α}
    (closed : ∀ node ∈ nodes, ∀ next ∈ adjacent node, next ∈ nodes)
    (initial : Invariant adjacent nodes [] before) (known : seeds ⊆ nodes)
    (enough : nodes.length ≤ fuel) :
    Invariant adjacent nodes [] (seeds.foldl (visitNew adjacent fuel) before) ∧
      Extends before (seeds.foldl (visitNew adjacent fuel) before) ∧
      ∀ node ∈ seeds, (seeds.foldl (visitNew adjacent fuel) before).indexes node ≠ none := by
  induction seeds generalizing before with
  | nil => exact ⟨initial, .refl before, by simp⟩
  | cons seed seeds induction =>
      have step : Invariant adjacent nodes [] (visitNew adjacent fuel before seed) ∧
          Extends before (visitNew adjacent fuel before seed) ∧
          (visitNew adjacent fuel before seed).indexes seed ≠ none := by
        unfold visitNew
        by_cases fresh : before.indexes seed = none
        · rw [if_pos fresh]
          have few : (unentered nodes before).card ≤ fuel :=
            Nat.le_trans (Finset.card_filter_le _ _)
              (Nat.le_trans (List.toFinset_card_le nodes) enough)
          have visited := visited_visit closed initial fresh (known List.mem_cons_self)
            (by simp) few
          exact ⟨visited.inv, visited.grown, visited.entered⟩
        · rw [if_neg fresh]
          exact ⟨initial, .refl before, fresh⟩
      obtain ⟨inv, grown, entered⟩ := step
      obtain ⟨inv', grown', entered'⟩ :=
        induction inv fun node member => known (List.mem_cons_of_mem seed member)
      refine ⟨inv', grown.trans grown', fun node member => ?_⟩
      obtain rfl | member := List.mem_cons.mp member
      · exact grown'.entered entered
      · exact entered' node member

theorem components_spec (closed : ∀ node ∈ nodes, ∀ next ∈ adjacent node, next ∈ nodes) :
    (∀ component ∈ components adjacent nodes, IsComponent adjacent component ∧
      component ⊆ nodes) ∧
    (∀ node ∈ nodes, ∃ component ∈ components adjacent nodes, node ∈ component) ∧
    (components adjacent nodes).Pairwise List.Disjoint := by
  obtain ⟨inv, _, entered⟩ := invariant_foldl closed invariant_initial (List.Subset.refl nodes)
    (Nat.le_refl nodes.length)
  have empty : ∀ node, node ∉ (search adjacent nodes).stack := by
    intro node member
    obtain ⟨active, none, _⟩ := inv.returns node member
    exact List.not_mem_nil none
  refine ⟨fun component member => ?_, fun node member => ?_, inv.disjoint⟩
  · obtain ⟨whole, left⟩ := inv.taken component member
    exact ⟨whole, fun node inside => inv.listed node (left node inside).1⟩
  · exact inv.settled node (entered node member) (empty node)

theorem mem_components_iff {component : List α} (nonempty : component ≠ [])
    (closed : ∀ node ∈ nodes, ∀ next ∈ adjacent node, next ∈ nodes)
    (known : component ⊆ nodes) :
    (∃ recorded ∈ components adjacent nodes, recorded.Perm component) ↔
      IsComponent adjacent component := by
  obtain ⟨exactly, covers, _⟩ := components_spec closed
  constructor
  · rintro ⟨recorded, member, perm⟩
    obtain ⟨⟨_, distinct, whole⟩, _⟩ := exactly recorded member
    refine ⟨nonempty, perm.nodup_iff.mp distinct, fun node inside other => ?_⟩
    rw [← perm.mem_iff]
    exact whole node (perm.mem_iff.mpr inside) other
  · rintro ⟨_, distinct, whole⟩
    obtain ⟨node, inside⟩ := List.exists_mem_of_ne_nil component nonempty
    obtain ⟨recorded, member, held⟩ := covers node (known inside)
    obtain ⟨⟨_, distinct', whole'⟩, _⟩ := exactly recorded member
    refine ⟨recorded, member, (List.perm_ext_iff_of_nodup distinct' distinct).mpr fun other => ?_⟩
    rw [whole' node held other, whole node inside other]

/-- A graph has a cycle exactly when a node is its own successor or a component has two members. -/
theorem exists_cycle_iff (closed : ∀ node ∈ nodes, ∀ next ∈ adjacent node, next ∈ nodes) :
    (∃ node ∈ nodes, Relation.TransGen (fun node next => next ∈ adjacent node) node node) ↔
      (∃ node ∈ nodes, node ∈ adjacent node) ∨
        ∃ component ∈ components adjacent nodes, 1 < component.length := by
  obtain ⟨exactly, covers, _⟩ := components_spec closed
  constructor
  · rintro ⟨node, known, cycle⟩
    obtain ⟨next, edge, back⟩ := Relation.TransGen.head'_iff.mp cycle
    by_cases same : next = node
    · exact Or.inl ⟨node, known, same ▸ edge⟩
    · refine Or.inr ?_
      obtain ⟨component, member, inside⟩ := covers node known
      obtain ⟨⟨_, distinct, whole⟩, _⟩ := exactly component member
      refine ⟨component, member, ?_⟩
      have both : [node, next].Subperm component := by
        refine List.subperm_of_subset (by simp [Ne.symm same]) fun other listed => ?_
        obtain rfl | listed := List.mem_cons.mp listed
        · exact inside
        · rw [List.mem_singleton.mp listed]
          exact (whole node inside next).mpr ⟨.single edge, back⟩
      exact both.length_le
  · rintro (⟨node, known, edge⟩ | ⟨component, member, large⟩)
    · exact ⟨node, known, .single edge⟩
    · obtain ⟨⟨_, distinct, whole⟩, listed⟩ := exactly component member
      obtain ⟨first, second, rest, rfl⟩ : ∃ first second rest, component = first :: second :: rest := by
        match component, large with
        | first :: second :: rest, _ => exact ⟨first, second, rest, rfl⟩
      have apart : first ≠ second := fun same =>
        (List.nodup_cons.mp distinct).1 (same ▸ List.mem_cons_self)
      obtain ⟨forth, back⟩ := (whole first List.mem_cons_self second).mp (by simp)
      refine ⟨first, listed List.mem_cons_self, ?_⟩
      obtain same | cycle := Relation.reflTransGen_iff_eq_or_transGen.mp forth
      · exact absurd same.symm apart
      · exact Relation.TransGen.trans_left cycle back

end StronglyConnected
end Dalph
