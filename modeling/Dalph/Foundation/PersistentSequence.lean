import Dalph.Foundation.KeyedMap

/-!
# Persistent sequences

A sequence shares its storage with every sequence it was appended to or cut from.  A view shows the
entries before its own length, and what it shows is a list that no later append changes.
-/

/-- The first `length` entries of a shared storage. -/
structure PersistentSequence (Item : Type) where
  storage : KeyedMap Nat Item
  length : Nat
  /-- Every entry before the end is stored. -/
  stored : ∀ index < length, (storage.lookup index).isSome = true

namespace PersistentSequence

variable {Item : Type} {sequence : PersistentSequence Item}

def empty : PersistentSequence Item := ⟨∅, 0, by simp⟩

def append (sequence : PersistentSequence Item) (item : Item) : PersistentSequence Item where
  storage := sequence.storage.set sequence.length item
  length := sequence.length + 1
  stored index before := by
    rw [KeyedMap.lookup_set]
    split
    · rfl
    · exact sequence.stored index (by omega)

def get (sequence : PersistentSequence Item) (offset : Int) : Option Item :=
  let index := if offset < 0 then sequence.length + offset else offset
  if index < 0 ∨ index ≥ sequence.length then none else sequence.storage.lookup index.toNat

def before (sequence : PersistentSequence Item) (exclusiveEnd : Int) : PersistentSequence Item where
  storage := sequence.storage
  length := (max 0 (min (sequence.length : Int) exclusiveEnd)).toNat
  stored index earlier := sequence.stored index (by omega)

def toList (sequence : PersistentSequence Item) : List Item :=
  (List.range sequence.length).filterMap sequence.storage.lookup

@[simp]
theorem length_toList : sequence.toList.length = sequence.length := by
  obtain ⟨storage, length, stored⟩ := sequence
  induction length with
  | zero => rfl
  | succ length induction =>
      obtain ⟨item, found⟩ := Option.isSome_iff_exists.mp (stored length (Nat.lt_succ_self length))
      have shorter := induction fun index earlier => stored index (Nat.lt_succ_of_lt earlier)
      simp only [toList] at shorter ⊢
      rw [List.range_succ, List.filterMap_append, List.length_append, shorter]
      simp [found]

theorem getElem?_toList {index : Nat} (before : index < sequence.length) :
    sequence.toList[index]? = sequence.storage.lookup index := by
  obtain ⟨storage, length, stored⟩ := sequence
  induction length with
  | zero => exact absurd before (Nat.not_lt_zero index)
  | succ length induction =>
      obtain ⟨item, found⟩ := Option.isSome_iff_exists.mp (stored length (Nat.lt_succ_self length))
      have kept := fun index earlier => stored index (Nat.lt_succ_of_lt earlier)
      have shorter := @length_toList _ ⟨storage, length, kept⟩
      simp only [toList] at shorter ⊢
      rw [List.range_succ, List.filterMap_append]
      obtain earlier | rfl := Nat.lt_succ_iff_lt_or_eq.mp before
      · rw [List.getElem?_append_left (by omega)]
        exact induction kept earlier
      · rw [List.getElem?_append_right (by omega), shorter]
        simp [found]

@[simp]
theorem toList_append (item : Item) : (sequence.append item).toList = sequence.toList ++ [item] := by
  apply List.ext_getElem?
  intro index
  obtain earlier | rfl | later := Nat.lt_trichotomy index sequence.length
  · have apart : index ≠ sequence.length := Nat.ne_of_lt earlier
    rw [getElem?_toList (show index < sequence.length + 1 by omega),
      List.getElem?_append_left (by simpa using earlier), getElem?_toList earlier, append]
    simp [apart]
  · rw [getElem?_toList (show sequence.length < sequence.length + 1 by omega),
      List.getElem?_append_right (by simp)]
    simp [append]
  · rw [List.getElem?_eq_none (by simpa [append] using later),
      List.getElem?_eq_none (by simp; omega)]

theorem toList_before (exclusiveEnd : Int) :
    (sequence.before exclusiveEnd).toList = sequence.toList.take exclusiveEnd.toNat := by
  apply List.ext_getElem?
  intro index
  have shorter : (sequence.before exclusiveEnd).length = min exclusiveEnd.toNat sequence.length := by
    simp only [before]
    omega
  obtain earlier | later := Nat.lt_or_ge index (sequence.before exclusiveEnd).length
  · rw [getElem?_toList earlier, List.getElem?_take_of_lt (by omega), getElem?_toList (by omega)]
    rfl
  · rw [List.getElem?_eq_none (by simpa using later), List.getElem?_eq_none]
    rw [List.length_take, length_toList]
    omega

theorem get_natCast (index : Nat) : sequence.get index = sequence.toList[index]? := by
  have nonnegative : ¬ (index : Int) < 0 := by omega
  simp only [get, if_neg nonnegative]
  obtain earlier | later := Nat.lt_or_ge index sequence.length
  · have within : ¬ ((index : Int) < 0 ∨ (index : Int) ≥ sequence.length) := by omega
    rw [if_neg within, if_neg nonnegative, Int.toNat_natCast, getElem?_toList earlier]
  · have outside : (index : Int) < 0 ∨ (index : Int) ≥ sequence.length := by omega
    rw [if_pos outside, List.getElem?_eq_none (by simpa using later)]

variable {item : Item}

theorem mem_toList_of_get {offset : Int} (found : sequence.get offset = some item) :
    item ∈ sequence.toList := by
  unfold get at found
  dsimp only at found
  generalize (if offset < 0 then (sequence.length : Int) + offset else offset) = index at found
  split at found
  · cases found
  · next within =>
      rw [← getElem?_toList (by omega)] at found
      exact List.mem_of_getElem? found

theorem get_neg_one : sequence.get (-1) = sequence.toList.getLast? := by
  rw [List.getLast?_eq_getElem?, length_toList]
  simp only [get, if_pos (show (-1 : Int) < 0 by decide)]
  by_cases none : sequence.length = 0
  · rw [if_pos (by omega), List.getElem?_eq_none (by simp [none])]
  · rw [if_neg (by omega), getElem?_toList (by omega)]
    congr 1
    omega

theorem get_length_sub_one : sequence.get ((sequence.length : Int) - 1) = sequence.toList.getLast? := by
  obtain empty | occupied := Nat.eq_zero_or_pos sequence.length
  · rw [empty]
    exact get_neg_one
  · rw [List.getLast?_eq_getElem?, length_toList, ← get_natCast]
    congr 1
    omega

variable (position : Item → Nat)

/-- Binary search for the first entry behind a cutoff. -/
def countThroughFrom (sequence : PersistentSequence Item) (cutoff : Int) (low high : Nat) : Nat :=
  if low < high then
    let middle := (low + high) / 2
    match sequence.get middle with
    | some item =>
        if (position item : Int) ≤ cutoff then sequence.countThroughFrom cutoff (middle + 1) high
        else sequence.countThroughFrom cutoff low middle
    | none => sequence.countThroughFrom cutoff low middle
  else low
termination_by high - low
decreasing_by all_goals omega

def countThrough (sequence : PersistentSequence Item) (cutoff : Int) : Nat :=
  sequence.countThroughFrom position cutoff 0 sequence.length

variable {position}

def Increasing (position : Item → Nat) (items : List Item) : Prop :=
  items.Pairwise fun left right => position left < position right

variable {items : List Item}

theorem Increasing.getElem_lt (increasing : Increasing position items) {left right : Nat}
    (earlier : left < right) (inside : right < items.length) :
    position items[left] < position items[right] :=
  List.pairwise_iff_getElem.mp increasing left right (by omega) inside earlier

/-- Everything before `low` is at most the cutoff and everything from `high` on is behind it. -/
def Brackets (position : Item → Nat) (items : List Item) (cutoff : Int) (low high : Nat) : Prop :=
  low ≤ high ∧ high ≤ items.length ∧
    (∀ index (inside : index < items.length), index < low → (position items[index] : Int) ≤ cutoff) ∧
      ∀ index (inside : index < items.length), high ≤ index →
        cutoff < (position items[index] : Int)

variable {cutoff : Int}

section

variable {low high : Nat} (active : low < high)
  (found : sequence.get ((low + high) / 2 : Nat) = some item)
include active found

theorem countThroughFrom_of_le (through : (position item : Int) ≤ cutoff) :
    sequence.countThroughFrom position cutoff low high =
      sequence.countThroughFrom position cutoff ((low + high) / 2 + 1) high := by
  rw [countThroughFrom, if_pos active]
  simp only [found, through, if_true]

theorem countThroughFrom_of_not_le (beyond : ¬ (position item : Int) ≤ cutoff) :
    sequence.countThroughFrom position cutoff low high =
      sequence.countThroughFrom position cutoff low ((low + high) / 2) := by
  rw [countThroughFrom, if_pos active]
  simp only [found, beyond, if_false]

end

-- The search keeps its bracket, and a bracket without entries between its ends is the count.
theorem brackets_countThroughFrom (increasing : Increasing position sequence.toList) (cutoff : Int)
    (low high : Nat) (brackets : Brackets position sequence.toList cutoff low high) :
    Brackets position sequence.toList cutoff (sequence.countThroughFrom position cutoff low high)
      (sequence.countThroughFrom position cutoff low high) := by
  induction low, high using countThroughFrom.induct position sequence cutoff with
  | case1 low high active middle item found through induction =>
      obtain ⟨ordered, inside, below, above⟩ := brackets
      have bound : middle < sequence.toList.length := by omega
      rw [countThroughFrom_of_le active found through]
      rw [get_natCast, List.getElem?_eq_getElem bound, Option.some.injEq] at found
      refine induction ⟨by omega, inside, ?_, above⟩
      intro index indexInside indexBefore
      obtain earlier | rfl := Nat.lt_succ_iff_lt_or_eq.mp indexBefore
      · have increased := increasing.getElem_lt earlier bound
        rw [found] at increased
        omega
      · rw [found]
        exact through
  | case2 low high active middle item found beyond induction =>
      obtain ⟨ordered, inside, below, above⟩ := brackets
      have bound : middle < sequence.toList.length := by omega
      rw [countThroughFrom_of_not_le active found beyond]
      rw [get_natCast, List.getElem?_eq_getElem bound, Option.some.injEq] at found
      refine induction ⟨by omega, by omega, below, ?_⟩
      intro index indexInside indexAfter
      obtain later | rfl := Nat.lt_or_eq_of_le indexAfter
      · have increased := increasing.getElem_lt later indexInside
        rw [found] at increased
        omega
      · rw [found]
        omega
  | case3 low high active middle missing induction =>
      have bound : middle < sequence.toList.length := by
        have := brackets.2.1
        omega
      rw [get_natCast, List.getElem?_eq_getElem bound] at missing
      contradiction
  | case4 low high done =>
      obtain ⟨ordered, inside, below, above⟩ := brackets
      obtain rfl : low = high := by omega
      rw [countThroughFrom, if_neg done]
      exact ⟨le_rfl, inside, below, above⟩

theorem brackets_countThrough (increasing : Increasing position sequence.toList) (cutoff : Int) :
    Brackets position sequence.toList cutoff (sequence.countThrough position cutoff)
      (sequence.countThrough position cutoff) := by
  apply brackets_countThroughFrom increasing
  refine ⟨Nat.zero_le _, by simp, fun index _ impossible => ?_, fun index inside after => ?_⟩
  · exact absurd impossible (Nat.not_lt_zero index)
  · rw [length_toList] at inside
    omega

section

variable {count : Nat} (brackets : Brackets position items cutoff count count)
include brackets

theorem Brackets.le_of_mem_take (member : item ∈ items.take count) :
    (position item : Int) ≤ cutoff := by
  obtain ⟨index, bound, rfl⟩ := List.mem_iff_getElem.mp member
  rw [List.length_take] at bound
  rw [List.getElem_take]
  exact brackets.2.2.1 index (by omega) (by omega)

theorem Brackets.lt_of_mem_drop (member : item ∈ items.drop count) :
    cutoff < (position item : Int) := by
  obtain ⟨index, bound, rfl⟩ := List.mem_iff_getElem.mp member
  rw [List.length_drop] at bound
  rw [List.getElem_drop]
  exact brackets.2.2.2 (count + index) (by omega) (by omega)

theorem Brackets.take_eq_filter :
    items.take count = items.filter fun item => decide ((position item : Int) ≤ cutoff) := by
  conv_rhs => rw [← List.take_append_drop count items]
  rw [List.filter_append, List.filter_eq_self.mpr, List.filter_eq_nil_iff.mpr, List.append_nil]
  · intro item member
    simpa using brackets.lt_of_mem_drop member
  · intro item member
    simpa using brackets.le_of_mem_take member

theorem Brackets.drop_eq_filter :
    items.drop count = items.filter fun item => decide (cutoff < (position item : Int)) := by
  conv_rhs => rw [← List.take_append_drop count items]
  rw [List.filter_append, List.filter_eq_nil_iff.mpr, List.filter_eq_self.mpr, List.nil_append]
  · intro item member
    simpa using brackets.lt_of_mem_drop member
  · intro item member
    simpa using brackets.le_of_mem_take member

end

theorem take_countThrough (increasing : Increasing position sequence.toList) (cutoff : Int) :
    sequence.toList.take (sequence.countThrough position cutoff) =
      sequence.toList.filter fun item => decide ((position item : Int) ≤ cutoff) :=
  (brackets_countThrough increasing cutoff).take_eq_filter

theorem countThrough_eq (increasing : Increasing position sequence.toList) (cutoff : Int) :
    sequence.countThrough position cutoff =
      (sequence.toList.filter fun item => decide ((position item : Int) ≤ cutoff)).length := by
  rw [← take_countThrough increasing cutoff, List.length_take]
  have := (brackets_countThrough increasing cutoff).2.1
  omega

section

variable (increasing : Increasing position items)
include increasing

theorem Increasing.find?_of_mem (member : item ∈ items) :
    (items.find? fun other => position other = position item) = some item := by
  induction items with
  | nil => exact absurd member List.not_mem_nil
  | cons first rest induction =>
      obtain ⟨before, ordered⟩ := List.pairwise_cons.mp increasing
      obtain rfl | later := List.mem_cons.mp member
      · simp
      · have apart : position first ≠ position item := Nat.ne_of_lt (before item later)
        rw [List.find?_cons_of_neg (by simpa using apart)]
        exact induction ordered later

theorem Increasing.eq_of_position {other : Item} (member : item ∈ items) (listed : other ∈ items)
    (same : position item = position other) : item = other := by
  have found := increasing.find?_of_mem member
  rw [same, increasing.find?_of_mem listed] at found
  exact (Option.some.inj found).symm

theorem Increasing.takeWhile_eq_filter (cutoff : Int) :
    (items.takeWhile fun item => decide ((position item : Int) ≤ cutoff)) =
      items.filter fun item => decide ((position item : Int) ≤ cutoff) := by
  induction items with
  | nil => rfl
  | cons item items induction =>
      obtain ⟨first, rest⟩ := List.pairwise_cons.mp increasing
      by_cases through : (position item : Int) ≤ cutoff
      · simp only [List.takeWhile_cons, List.filter_cons, through, decide_true, if_true]
        rw [induction rest]
      · simp only [List.takeWhile_cons, List.filter_cons, through, decide_false,
          Bool.false_eq_true, if_false]
        refine (List.filter_eq_nil_iff.mpr ?_).symm
        intro other member
        have := first other member
        simp only [decide_eq_true_eq]
        omega

theorem Increasing.exists_filter_append (cutoff : Int) :
    ∃ later, items = (items.filter fun item => decide ((position item : Int) ≤ cutoff)) ++ later := by
  rw [← increasing.takeWhile_eq_filter]
  exact ⟨_, (List.takeWhile_append_dropWhile ..).symm⟩

end

theorem Increasing.filter_eq_self {last : Item} (increasing : Increasing position (items ++ [last]))
    (through : (position last : Int) ≤ cutoff) :
    (items ++ [last]).filter (fun item => decide ((position item : Int) ≤ cutoff)) =
      items ++ [last] := by
  refine List.filter_eq_self.mpr fun item member => decide_eq_true ?_
  obtain before | here := List.mem_append.mp member
  · have earlier := (List.pairwise_append.mp increasing).2.2 item before last (by simp)
    omega
  · rwa [List.mem_singleton.mp here]

variable (position) in
def lastThrough (sequence : PersistentSequence Item) (cutoff : Int) : Option Item :=
  let low := sequence.countThrough position cutoff
  if low = 0 then none else sequence.get (low - 1 : Nat)

variable (position) in
def lastVisible (sequence : PersistentSequence Item) (cutoff : Int) : Option Item :=
  match sequence.get (-1) with
  | none => none
  | some latest =>
      if (position latest : Int) ≤ cutoff then some latest
      else sequence.lastThrough position cutoff

theorem lastThrough_eq (increasing : Increasing position sequence.toList) (cutoff : Int) :
    sequence.lastThrough position cutoff =
      (sequence.toList.filter fun item => decide ((position item : Int) ≤ cutoff)).getLast? := by
  have taken := take_countThrough increasing cutoff
  have inside := (brackets_countThrough increasing cutoff).2.1
  rw [← taken]
  unfold lastThrough
  dsimp only
  split_ifs with none
  · rw [none, List.take_zero, List.getLast?_nil]
  · rw [get_natCast, List.getLast?_eq_getElem?, List.length_take, Nat.min_eq_left inside,
      List.getElem?_take_of_lt (Nat.sub_one_lt none)]

theorem lastVisible_eq (increasing : Increasing position sequence.toList) (cutoff : Int) :
    sequence.lastVisible position cutoff =
      (sequence.toList.filter fun item => decide ((position item : Int) ≤ cutoff)).getLast? := by
  unfold lastVisible
  rw [get_neg_one]
  obtain empty | ⟨items, latest, listed⟩ := List.eq_nil_or_concat sequence.toList
  · rw [empty]
    rfl
  · rw [List.concat_eq_append] at listed
    rw [listed, List.getLast?_concat]
    dsimp only
    split_ifs with through
    · rw [listed] at increasing
      rw [increasing.filter_eq_self through, List.getLast?_concat]
    · rw [lastThrough_eq increasing, listed]

end PersistentSequence
