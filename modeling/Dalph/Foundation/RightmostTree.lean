import Dalph.Foundation.KeyedMap

/-!
# Trees of rightmost items

Items stand at offsets and may be replaced or removed.  The node of a level and an offset stands for
one aligned block of items and keeps the last of them, so the last item of all is read at the root
and one replacement recomputes a single path.  A tree may grow by one level with each replacement.
-/

namespace RightmostTree

variable {Item : Type} {items items' : Nat → Option Item}

def rightmost (items : Nat → Option Item) (start : Nat) : Nat → Option Item
  | 0 => none
  | length + 1 => (items (start + length)).or (rightmost items start length)

theorem rightmost_one (start : Nat) : rightmost items start 1 = items start := by
  rw [rightmost, rightmost, Option.or_none, Nat.add_zero]

theorem rightmost_add (start first second : Nat) :
    rightmost items start (first + second) =
      (rightmost items (start + first) second).or (rightmost items start first) := by
  induction second with
  | zero => rfl
  | succ second induction =>
      rw [← Nat.add_assoc, rightmost, induction, rightmost, Option.or_assoc, Nat.add_assoc]

theorem rightmost_congr {start length : Nat}
    (agree : ∀ index, start ≤ index → index < start + length → items index = items' index) :
    rightmost items start length = rightmost items' start length := by
  induction length with
  | zero => rfl
  | succ length induction =>
      rw [rightmost, rightmost, agree (start + length) (by omega) (by omega),
        induction fun index after before => agree index after (by omega)]

theorem rightmost_eq_none {start length : Nat}
    (empty : ∀ index, start ≤ index → index < start + length → items index = none) :
    rightmost items start length = none := by
  induction length with
  | zero => rfl
  | succ length induction =>
      rw [rightmost, empty (start + length) (by omega) (by omega),
        induction fun index after before => empty index after (by omega)]
      rfl

theorem rightmost_of_bounded {count length : Nat} (bounded : ∀ index, count ≤ index → items index = none)
    (covers : count ≤ length) : rightmost items 0 length = rightmost items 0 count := by
  obtain ⟨rest, rfl⟩ := Nat.exists_eq_add_of_le covers
  rw [rightmost_add, rightmost_eq_none fun index after _ => bounded index (by omega), Option.none_or]

variable {Key : Type} [DecidableEq Key] {tree : KeyedMap Key Item} {key other : Key}
  {item : Option Item}

def put (tree : KeyedMap Key Item) (key : Key) (item : Option Item) : KeyedMap Key Item :=
  match item with
  | none => tree.erase key
  | some item => tree.set key item

theorem lookup_put :
    (put tree key item).lookup other = if other = key then item else tree.lookup other := by
  cases item with
  | none => exact KeyedMap.lookup_erase_eq_ite
  | some item => exact KeyedMap.lookup_set

/-- Recomputes the nodes above a node, one level after the other. -/
def raise (node : Nat → Nat → Key) (tree : KeyedMap Key Item) (level offset : Nat) :
    Nat → KeyedMap Key Item
  | 0 => tree
  | levels + 1 =>
      let parent := offset / 2
      let left := parent * 2
      let last := (tree.lookup (node level (left + 1))).or (tree.lookup (node level left))
      raise node (put tree (node (level + 1) parent) last) (level + 1) parent levels

def replace (node : Nat → Nat → Key) (tree : KeyedMap Key Item) (depth offset : Nat)
    (item : Option Item) : KeyedMap Key Item :=
  raise node (put tree (node 0 offset) item) 0 offset depth

variable {node : Nat → Nat → Key} {depth depth' offset level : Nat}

def Covers (node : Nat → Nat → Key) (items : Nat → Option Item) (tree : KeyedMap Key Item)
    (level offset : Nat) : Prop :=
  tree.lookup (node level offset) = rightmost items (offset * 2 ^ level) (2 ^ level)

/-- Every node up to the depth stands for its block, and the root for all items. -/
structure Holds (node : Nat → Nat → Key) (items : Nat → Option Item) (tree : KeyedMap Key Item)
    (depth : Nat) : Prop where
  covers : ∀ level ≤ depth, ∀ offset, Covers node items tree level offset
  above : ∀ level, depth < level → ∀ offset, tree.lookup (node level offset) = none
  bounded : ∀ index, 2 ^ depth ≤ index → items index = none

theorem holds_empty : Holds node (fun _ => none) (∅ : KeyedMap Key Item) 0 where
  covers level _ offset := by
    rw [Covers, rightmost_eq_none fun _ _ _ => rfl]
    rfl
  above _ _ _ := rfl
  bounded _ _ := rfl

theorem Holds.root (holds : Holds node items tree depth) :
    tree.lookup (node depth 0) = rightmost items 0 (2 ^ depth) := by
  have root := holds.covers depth (Nat.le_refl depth) 0
  rwa [Covers, Nat.zero_mul] at root

/-- The nodes above a level are right except on the path of one index. -/
structure Rising (node : Nat → Nat → Key) (items : Nat → Option Item) (tree : KeyedMap Key Item)
    (depth index level : Nat) : Prop where
  covers : ∀ below ≤ level, ∀ offset, Covers node items tree below offset
  aside : ∀ above, level < above → above ≤ depth → ∀ offset, offset ≠ index / 2 ^ above →
    Covers node items tree above offset
  beyond : ∀ above, depth < above → ∀ offset, tree.lookup (node above offset) = none

theorem rightmost_parent (level parent : Nat) :
    (rightmost items ((parent * 2 + 1) * 2 ^ level) (2 ^ level)).or
        (rightmost items (parent * 2 * 2 ^ level) (2 ^ level)) =
      rightmost items (parent * 2 ^ (level + 1)) (2 ^ (level + 1)) := by
  have start : parent * 2 ^ (level + 1) = parent * 2 * 2 ^ level := by ring
  have next : (parent * 2 + 1) * 2 ^ level = parent * 2 * 2 ^ level + 2 ^ level := by ring
  have width : 2 ^ (level + 1) = 2 ^ level + 2 ^ level := by ring
  rw [start, next, width, rightmost_add]

theorem lookup_put_node (injective : Function.Injective2 node) {above parent : Nat}
    (apart : above ≠ level ∨ offset ≠ parent) :
    (put tree (node level parent) item).lookup (node above offset) =
      tree.lookup (node above offset) := by
  rw [lookup_put, if_neg]
  intro same
  obtain ⟨levels, offsets⟩ := injective same
  exact apart.elim (· levels) (· offsets)

theorem Rising.step (injective : Function.Injective2 node) {index : Nat}
    (rising : Rising node items tree depth index level) (below : level < depth) :
    Rising node items
      (put tree (node (level + 1) (index / 2 ^ level / 2))
        ((tree.lookup (node level (index / 2 ^ level / 2 * 2 + 1))).or
          (tree.lookup (node level (index / 2 ^ level / 2 * 2)))))
      depth index (level + 1) := by
  have parent : index / 2 ^ level / 2 = index / 2 ^ (level + 1) := by
    rw [Nat.div_div_eq_div_mul, Nat.pow_succ]
  rw [parent]
  constructor
  · intro lower bound offset
    by_cases here : lower = level + 1
    · subst here
      by_cases onPath : offset = index / 2 ^ (level + 1)
      · subst onPath
        rw [Covers, lookup_put, if_pos rfl, rising.covers level (Nat.le_refl _),
          rising.covers level (Nat.le_refl _), rightmost_parent]
      · rw [Covers, lookup_put_node injective (Or.inr onPath)]
        exact rising.aside (level + 1) (by omega) (by omega) offset onPath
    · rw [Covers, lookup_put_node injective (Or.inl here)]
      exact rising.covers lower (by omega) offset
  · intro above after bound offset apart
    rw [Covers, lookup_put_node injective (Or.inl (by omega))]
    exact rising.aside above (by omega) bound offset apart
  · intro above after offset
    rw [lookup_put_node injective (Or.inl (by omega))]
    exact rising.beyond above after offset

theorem Rising.raise (injective : Function.Injective2 node) {index levels : Nat}
    (rising : Rising node items tree depth index level) (through : level + levels = depth) :
    Rising node items (raise node tree level (index / 2 ^ level) levels) depth index depth := by
  induction levels generalizing tree level with
  | zero =>
      obtain rfl : level = depth := by omega
      exact rising
  | succ levels induction =>
      have next := induction (rising.step injective (by omega)) (by omega)
      have parent : index / 2 ^ (level + 1) = index / 2 ^ level / 2 := by
        rw [Nat.div_div_eq_div_mul, Nat.pow_succ]
      rw [parent] at next
      exact next

theorem apart_of_mem_block {index block : Nat} (after : block * 2 ^ level ≤ index)
    (before : index < block * 2 ^ level + 2 ^ level) : block = index / 2 ^ level := by
  refine (Nat.div_eq_of_lt_le after ?_).symm
  rw [Nat.succ_mul]
  exact before

/-- Replacing one item keeps a tree that may grow by one level. -/
theorem Holds.replace (injective : Function.Injective2 node) (holds : Holds node items tree depth)
    (kept : depth ≤ depth') (grown : depth' ≤ depth + 1) (inside : offset < 2 ^ depth')
    (item : Option Item) :
    Holds node (Function.update items offset item) (replace node tree depth' offset item) depth' := by
  have started : Rising node (Function.update items offset item) (put tree (node 0 offset) item)
      depth' offset 0 := by
    constructor
    · intro below bound other
      obtain rfl : below = 0 := by omega
      rw [Covers, lookup_put, Nat.pow_zero, Nat.mul_one, rightmost_one]
      by_cases here : other = offset
      · rw [here, if_pos rfl, Function.update_self]
      · have unmoved := holds.covers 0 (Nat.zero_le _) other
        rw [Covers, Nat.pow_zero, Nat.mul_one, rightmost_one] at unmoved
        rw [if_neg fun same => here (injective same).2, Function.update_of_ne here, unmoved]
    · intro above after bound other apart
      have outside : ∀ index, other * 2 ^ above ≤ index →
          index < other * 2 ^ above + 2 ^ above → index ≠ offset := by
        rintro index from' before rfl
        exact apart (apart_of_mem_block from' before)
      rw [Covers, lookup_put_node injective (Or.inl (by omega))]
      by_cases known : above ≤ depth
      · rw [holds.covers above known]
        exact rightmost_congr fun index from' before =>
          (Function.update_of_ne (outside index from' before) ..).symm
      · -- The new level has the root on the path, and other blocks lie behind all items.
        obtain rfl : above = depth' := by omega
        rw [holds.above above (by omega)]
        refine (rightmost_eq_none fun index from' before => ?_).symm
        rw [Function.update_of_ne (outside index from' before)]
        refine holds.bounded index ?_
        rw [Nat.div_eq_of_lt inside] at apart
        have wide : 2 ^ depth ≤ 2 ^ above := Nat.pow_le_pow_right (by decide) kept
        have behind : 2 ^ above ≤ other * 2 ^ above :=
          Nat.le_mul_of_pos_left _ (Nat.pos_of_ne_zero apart)
        omega
    · intro above after other
      rw [lookup_put_node injective (Or.inl (by omega))]
      exact holds.above above (by omega) other
  have raised := started.raise injective (Nat.zero_add depth')
  rw [Nat.pow_zero, Nat.div_one] at raised
  refine ⟨raised.covers, raised.beyond, fun index outside => ?_⟩
  have wide : 2 ^ depth ≤ 2 ^ depth' := Nat.pow_le_pow_right (by decide) kept
  rw [Function.update_of_ne (by omega)]
  exact holds.bounded index (by omega)

end RightmostTree
