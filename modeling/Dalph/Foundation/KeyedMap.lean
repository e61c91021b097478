import Mathlib

/-!
# Keyed maps

Maps whose entries are replaced by key.  Inserting and erasing are read back through the value found
under any key and through the number of entries.
-/

/-- Values kept under a key.  No operation depends on the order of the entries. -/
abbrev KeyedMap (Key Value : Type) := AList fun _ : Key => Value

namespace KeyedMap

variable {Key Value : Type} {map : KeyedMap Key Value} {key other : Key} {value : Value}

def size (map : KeyedMap Key Value) : Nat := map.keys.length

variable [DecidableEq Key]

theorem lookup_insert_eq_ite :
    (map.insert key value).lookup other = if other = key then some value else map.lookup other := by
  split
  · next same => subst same; exact AList.lookup_insert map
  · next apart => exact AList.lookup_insert_ne apart

theorem lookup_erase_eq_ite :
    (map.erase key).lookup other = if other = key then none else map.lookup other := by
  split
  · next same => subst same; exact AList.lookup_erase other map
  · next apart => exact AList.lookup_erase_ne apart

theorem size_eq_zero : size map = 0 ↔ ∀ key, map.lookup key = none := by
  simp only [size, List.length_eq_zero_iff, AList.lookup_eq_none, AList.mem_keys,
    List.eq_nil_iff_forall_not_mem]

theorem size_insert_of_lookup {old : Value} (found : map.lookup key = some old) :
    size (map.insert key value) = size map := by
  have member : key ∈ map.keys := by
    rw [← AList.mem_keys, ← AList.lookup_isSome, found]
    rfl
  have positive := List.length_pos_of_mem member
  simp only [size, AList.keys_insert, List.length_cons, List.length_erase_of_mem member]
  omega

theorem size_erase_le : size (map.erase key) ≤ size map := by
  simp only [size, AList.keys_erase]
  exact List.length_erase_le

def set (map : KeyedMap Key Value) (key : Key) (value : Value) : KeyedMap Key Value :=
  if key ∈ map then map.replace key value else map ∪ AList.singleton key value

def ofEntries (entries : List (Key × Value)) : KeyedMap Key Value :=
  entries.foldl (fun map entry => set map entry.1 entry.2) ∅

theorem dlookup_kreplace (entries : List (Sigma fun _ : Key => Value)) (present : key ∈ entries.keys) :
    List.dlookup other (List.kreplace key value entries) =
      if other = key then some value else List.dlookup other entries := by
  induction entries with
  | nil => simp at present
  | cons entry entries induction =>
      obtain ⟨entryKey, entryValue⟩ := entry
      by_cases here : key = entryKey
      · subst here
        have replaced : List.kreplace key value (⟨key, entryValue⟩ :: entries) =
            ⟨key, value⟩ :: entries := by
          simp [List.kreplace]
        rw [replaced]
        by_cases same : other = key
        · subst same
          simp
        · rw [List.dlookup_cons_ne _ _ same, List.dlookup_cons_ne _ _ same, if_neg same]
      · rw [List.keys_cons, List.mem_cons] at present
        have kept : List.kreplace key value (⟨entryKey, entryValue⟩ :: entries) =
            ⟨entryKey, entryValue⟩ :: List.kreplace key value entries := by
          simp [List.kreplace, here]
        rw [kept]
        by_cases first : other = entryKey
        · subst first
          rw [List.dlookup_cons_eq, List.dlookup_cons_eq, if_neg fun same => here same.symm]
        · rw [List.dlookup_cons_ne _ _ first, List.dlookup_cons_ne _ _ first]
          exact induction (present.resolve_left here)

@[simp]
theorem lookup_set :
    (set map key value).lookup other = if other = key then some value else map.lookup other := by
  unfold set
  split
  · next present => exact dlookup_kreplace map.entries present
  · next absent =>
      by_cases same : other = key
      · subst same
        rw [AList.lookup_union_right absent, if_pos rfl]
        exact List.dlookup_cons_eq ..
      · rw [if_neg same]
        by_cases present : other ∈ map
        · exact AList.lookup_union_left present
        · rw [AList.lookup_union_right present, AList.lookup_eq_none.mpr present]
          exact List.dlookup_cons_ne _ _ same

theorem size_set_of_lookup {old : Value} (found : map.lookup key = some old) :
    size (set map key value) = size map := by
  have present : key ∈ map := by
    rw [← AList.lookup_isSome, found]
    rfl
  rw [set, if_pos present, size, size, AList.keys_replace]

theorem mem_set : other ∈ set map key value ↔ other = key ∨ other ∈ map := by
  rw [← AList.lookup_isSome, ← AList.lookup_isSome, lookup_set]
  by_cases same : other = key
  · simp [same]
  · simp [same]

theorem size_eq_card : size map = map.keys.toFinset.card :=
  (List.toFinset_card_of_nodup map.nodupKeys).symm

theorem size_set_of_not_mem (absent : key ∉ map) : size (set map key value) = size map + 1 := by
  have keys : (set map key value).keys.toFinset = insert key map.keys.toFinset := by
    ext other
    rw [Finset.mem_insert, List.mem_toFinset, List.mem_toFinset, ← AList.mem_keys, ← AList.mem_keys,
      mem_set]
  rw [size_eq_card, size_eq_card, keys, Finset.card_insert_of_notMem]
  rwa [List.mem_toFinset, ← AList.mem_keys]

variable {entries : List (Key × Value)}

theorem lookup_foldl_set_of_forall_ne (apart : ∀ entry ∈ entries, entry.1 ≠ key) :
    (entries.foldl (fun map entry => set map entry.1 entry.2) map).lookup key = map.lookup key := by
  induction entries generalizing map with
  | nil => rfl
  | cons entry entries induction =>
      rw [List.forall_mem_cons] at apart
      rw [List.foldl_cons, induction apart.2, lookup_set, if_neg fun same => apart.1 same.symm]

theorem lookup_foldl_set (only : ∀ entry ∈ entries, entry.1 = key → entry.2 = value)
    (present : (key, value) ∈ entries ∨ map.lookup key = some value) :
    (entries.foldl (fun map entry => set map entry.1 entry.2) map).lookup key = some value := by
  induction entries generalizing map with
  | nil => simpa using present
  | cons entry entries induction =>
      rw [List.forall_mem_cons] at only
      rw [List.foldl_cons]
      apply induction only.2
      rw [lookup_set]
      by_cases here : entry.1 = key
      · exact Or.inr (by rw [if_pos here.symm, only.1 here])
      · rw [if_neg fun same => here same.symm]
        refine present.imp_left fun member => ?_
        refine (List.mem_cons.mp member).resolve_left fun same => here ?_
        rw [← same]

theorem lookup_foldl_set_image {valueOf : Key → Value} {keys : List Key} :
    (keys.foldl (fun map key => set map key (valueOf key)) map).lookup key =
      if key ∈ keys then some (valueOf key) else map.lookup key := by
  induction keys generalizing map with
  | nil => simp
  | cons first rest induction =>
      rw [List.foldl_cons, induction, lookup_set]
      by_cases here : key = first
      · subst here
        simp
      · simp [here]

theorem lookup_ofEntries_eq_none (apart : ∀ entry ∈ entries, entry.1 ≠ key) :
    (ofEntries entries).lookup key = none :=
  lookup_foldl_set_of_forall_ne apart

theorem lookup_ofEntries (only : ∀ entry ∈ entries, entry.1 = key → entry.2 = value)
    (member : (key, value) ∈ entries) : (ofEntries entries).lookup key = some value :=
  lookup_foldl_set only (Or.inl member)

end KeyedMap
