import Dalph.Foundation.PersistentSequence

/-!
# Indexes of sequences

An index keeps one sequence for each key.  An item is appended under every key of a set, and the
sequence of a key then shows, in order, the items that were appended under it.
-/

structure KeySet (Key : Type) where
  items : List Key
  nodup : items.Nodup

namespace KeySet

variable {Key : Type} [DecidableEq Key] {keys : KeySet Key} {key other : Key}

instance : Membership Key (KeySet Key) := ⟨fun keys key => key ∈ keys.items⟩

instance : Decidable (key ∈ keys) := inferInstanceAs (Decidable (key ∈ keys.items))

def empty : KeySet Key := ⟨[], List.nodup_nil⟩

def add (keys : KeySet Key) (key : Key) : KeySet Key :=
  ⟨keys.items.insert key, keys.nodup.insert⟩

def add? (keys : KeySet Key) (key : Option Key) : KeySet Key :=
  match key with
  | some key => keys.add key
  | none => keys

def addAll (keys : KeySet Key) (added : List Key) : KeySet Key :=
  added.foldl add keys

def delete (keys : KeySet Key) (key : Key) : KeySet Key :=
  ⟨keys.items.erase key, keys.nodup.erase key⟩

def fromIterable (items : List Key) : KeySet Key :=
  ⟨items.dedup, items.nodup_dedup⟩

omit [DecidableEq Key] in
@[simp]
theorem not_mem_empty : ¬ key ∈ (empty : KeySet Key) := List.not_mem_nil

@[simp]
theorem mem_add : other ∈ keys.add key ↔ other = key ∨ other ∈ keys :=
  List.mem_insert_iff

@[simp]
theorem mem_delete : other ∈ keys.delete key ↔ other ≠ key ∧ other ∈ keys :=
  keys.nodup.mem_erase_iff

@[simp]
theorem mem_add? {key : Option Key} : other ∈ keys.add? key ↔ key = some other ∨ other ∈ keys := by
  cases key with
  | none => simp [add?]
  | some key => simp [add?, eq_comm]

@[simp]
theorem mem_addAll {added : List Key} : key ∈ keys.addAll added ↔ key ∈ added ∨ key ∈ keys := by
  induction added generalizing keys with
  | nil => simp [addAll]
  | cons first rest induction =>
      have step := @induction (keys.add first)
      simp only [addAll, List.foldl_cons] at step ⊢
      rw [step, mem_add, List.mem_cons]
      tauto

@[simp]
theorem mem_fromIterable {items : List Key} : key ∈ fromIterable items ↔ key ∈ items :=
  List.mem_dedup

end KeySet

abbrev SequenceIndex (Key Item : Type) := KeyedMap Key (PersistentSequence Item)

namespace SequenceIndex

variable {Key Item : Type} [DecidableEq Key] {index : SequenceIndex Key Item} {key other : Key}
  {item : Item}

def bucket (index : SequenceIndex Key Item) (key : Key) : PersistentSequence Item :=
  (index.lookup key).getD .empty

def push (index : SequenceIndex Key Item) (key : Key) (item : Item) : SequenceIndex Key Item :=
  index.set key ((index.bucket key).append item)

def pushAll (index : SequenceIndex Key Item) (keys : List Key) (item : Item) :
    SequenceIndex Key Item :=
  keys.foldl (fun index key => index.push key item) index

theorem bucket_push :
    (index.push key item).bucket other =
      if other = key then (index.bucket key).append item else index.bucket other := by
  unfold bucket push
  rw [KeyedMap.lookup_set]
  split <;> rfl

theorem toList_bucket_pushAll {keys : List Key} (distinct : keys.Nodup) :
    ((index.pushAll keys item).bucket key).toList =
      (index.bucket key).toList ++ if key ∈ keys then [item] else [] := by
  induction keys generalizing index with
  | nil => simp [pushAll]
  | cons first rest induction =>
      obtain ⟨fresh, distinct⟩ := List.nodup_cons.mp distinct
      have step := @induction (index.push first item) distinct
      simp only [pushAll, List.foldl_cons] at step ⊢
      rw [step, bucket_push]
      by_cases here : key = first
      · subst here
        simp [fresh]
      · simp [here]

end SequenceIndex

/-- Sequences kept under a key and a kind. -/
abbrev KindIndex (Key Kind Item : Type) := KeyedMap Key (SequenceIndex Kind Item)

namespace KindIndex

variable {Key Kind Item : Type} [DecidableEq Key] [DecidableEq Kind]
  {index : KindIndex Key Kind Item} {key other : Key} {kind kind' : Kind} {item : Item}

def kinds (index : KindIndex Key Kind Item) (key : Key) : SequenceIndex Kind Item :=
  (index.lookup key).getD ∅

def bucket (index : KindIndex Key Kind Item) (key : Key) (kind : Kind) : PersistentSequence Item :=
  SequenceIndex.bucket (index.kinds key) kind

def push (index : KindIndex Key Kind Item) (key : Key) (kind : Kind) (item : Item) :
    KindIndex Key Kind Item :=
  index.set key (SequenceIndex.push (index.kinds key) kind item)

def pushAll (index : KindIndex Key Kind Item) (keys : List Key) (kind : Kind) (item : Item) :
    KindIndex Key Kind Item :=
  keys.foldl (fun index key => index.push key kind item) index

theorem bucket_push :
    (index.push key kind item).bucket other kind' =
      if other = key ∧ kind' = kind then (index.bucket key kind).append item
      else index.bucket other kind' := by
  unfold bucket push kinds
  rw [KeyedMap.lookup_set]
  by_cases here : other = key
  · subst here
    simp only [if_true, Option.getD_some, true_and]
    rw [SequenceIndex.bucket_push]
  · simp only [here, if_false, false_and]

theorem toList_bucket_pushAll {keys : List Key} (distinct : keys.Nodup) :
    ((index.pushAll keys kind item).bucket key kind').toList =
      (index.bucket key kind').toList ++ if key ∈ keys ∧ kind' = kind then [item] else [] := by
  induction keys generalizing index with
  | nil => simp [pushAll]
  | cons first rest induction =>
      obtain ⟨fresh, distinct⟩ := List.nodup_cons.mp distinct
      have step := @induction (index.push first kind item) distinct
      simp only [pushAll, List.foldl_cons] at step ⊢
      rw [step, bucket_push]
      by_cases here : key = first
      · subst here
        by_cases same : kind' = kind
        · subst same
          simp [fresh]
        · simp [same]
      · simp [here]

end KindIndex
