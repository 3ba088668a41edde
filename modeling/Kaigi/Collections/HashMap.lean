import Mathlib.Data.List.AList

/-!
# Hash maps and hash sets with an explicit iteration order

A hash map is an association list without repeated keys. The order of its
entries is the iteration order, which no caller may depend on: `reorder`
replaces it by any other one and leaves every lookup unchanged.
-/

set_option autoImplicit false

namespace Kaigi.Collections

abbrev HashMap (Key Value : Type) := AList fun _ : Key => Value

namespace HashMap

variable {Key Value : Type} [DecidableEq Key]

def get? (map : HashMap Key Value) (key : Key) : Option Value :=
  AList.lookup key map

def containsKey (map : HashMap Key Value) (key : Key) : Bool :=
  (map.get? key).isSome

/-- Entries in iteration order. -/
def iter (map : HashMap Key Value) : List (Key × Value) :=
  map.entries.map fun entry => (entry.1, entry.2)

def values (map : HashMap Key Value) : List Value :=
  map.iter.map Prod.snd

def isEmpty (map : HashMap Key Value) : Bool :=
  map.entries.isEmpty

def put (map : HashMap Key Value) (key : Key) (value : Value) : HashMap Key Value :=
  AList.insert key value map

def remove (map : HashMap Key Value) (key : Key) : HashMap Key Value :=
  AList.erase key map

/-- Keep the entries that satisfy `keep`. -/
def retain (map : HashMap Key Value) (keep : Key → Value → Bool) : HashMap Key Value where
  entries := map.entries.filter fun entry => keep entry.1 entry.2
  nodupKeys := (List.filter_sublist.map Sigma.fst).nodup map.nodupKeys

/-- Assign through a mutable reference to every value, in place. -/
def mapValues (map : HashMap Key Value) (update : Key → Value → Value) : HashMap Key Value where
  entries := map.entries.map fun entry => ⟨entry.1, update entry.1 entry.2⟩
  nodupKeys := by
    have keys : (map.entries.map fun entry => (⟨entry.1, update entry.1 entry.2⟩ :
        Sigma fun _ : Key => Value)).map Sigma.fst = map.entries.map Sigma.fst := by
      simp
    exact (congrArg List.Nodup keys).mpr map.nodupKeys

/-- Assign through a mutable reference to the value at `key`, if there is one. -/
def modify (map : HashMap Key Value) (key : Key) (update : Value → Value) : HashMap Key Value :=
  map.mapValues fun current value => if current = key then update value else value

/-- `entry(key).or_insert(value)`. -/
def orInsert (map : HashMap Key Value) (key : Key) (value : Value) : HashMap Key Value :=
  if map.containsKey key then map else map.put key value

/-- Bring the entries of `order` to the front, in that order. -/
def reorder (map : HashMap Key Value) (order : List Key) : HashMap Key Value :=
  order.foldr (fun key map =>
    match map.get? key with
    | some value => map.put key value
    | none => map) map

theorem mem_iter {map : HashMap Key Value} {key : Key} {value : Value} :
    (key, value) ∈ map.iter ↔ map.get? key = some value := by
  unfold iter get?
  rw [← Option.mem_def, AList.mem_lookup_iff]
  constructor
  · intro member
    obtain ⟨entry, found, same⟩ := List.mem_map.mp member
    cases same
    exact found
  · intro member
    exact List.mem_map.mpr ⟨⟨key, value⟩, member, rfl⟩

theorem mem_values {map : HashMap Key Value} {value : Value} :
    value ∈ map.values ↔ ∃ key, map.get? key = some value := by
  unfold values
  constructor
  · intro member
    obtain ⟨⟨key, found⟩, entry, rfl⟩ := List.mem_map.mp member
    exact ⟨key, mem_iter.mp entry⟩
  · rintro ⟨key, found⟩
    exact List.mem_map.mpr ⟨(key, value), mem_iter.mpr found, rfl⟩

theorem mem_keys {map : HashMap Key Value} {key : Key} :
    key ∈ map.keys ↔ (map.get? key).isSome = true := by
  unfold get?
  rw [AList.lookup_isSome, AList.mem_keys]

@[simp] theorem get?_empty (key : Key) : get? (∅ : HashMap Key Value) key = none :=
  AList.lookup_empty key

@[simp] theorem get?_put (map : HashMap Key Value) (key : Key) (value : Value) (other : Key) :
    (map.put key value).get? other = if other = key then some value else map.get? other := by
  unfold get? put
  split
  · next same =>
      subst same
      exact AList.lookup_insert map
  · next different => exact AList.lookup_insert_ne different

@[simp] theorem get?_remove (map : HashMap Key Value) (key other : Key) :
    (map.remove key).get? other = if other = key then none else map.get? other := by
  unfold get? remove
  split
  · next same =>
      subst same
      exact AList.lookup_erase _ map
  · next different => exact AList.lookup_erase_ne different

@[simp] theorem get?_mapValues (map : HashMap Key Value) (update : Key → Value → Value)
    (key : Key) : (map.mapValues update).get? key = (map.get? key).map (update key) := by
  ext value
  rw [← mem_iter]
  constructor
  · intro member
    obtain ⟨entry, found, same⟩ := List.mem_map.mp member
    obtain ⟨⟨current, old⟩, present, rfl⟩ := List.mem_map.mp found
    cases same
    have looked : map.get? current = some old :=
      mem_iter.mp (List.mem_map.mpr ⟨⟨current, old⟩, present, rfl⟩)
    simp [looked]
  · intro found
    obtain ⟨old, looked, rfl⟩ := Option.map_eq_some_iff.mp found
    obtain ⟨⟨current, value⟩, present, same⟩ := List.mem_map.mp (mem_iter.mpr looked)
    cases same
    exact List.mem_map.mpr ⟨⟨current, update current value⟩,
      List.mem_map.mpr ⟨⟨current, value⟩, present, rfl⟩, rfl⟩

omit [DecidableEq Key] in
theorem mem_iter_retain {map : HashMap Key Value} {keep : Key → Value → Bool} {key : Key}
    {value : Value} :
    (key, value) ∈ (map.retain keep).iter ↔ (key, value) ∈ map.iter ∧ keep key value = true := by
  unfold iter retain
  constructor
  · intro member
    obtain ⟨entry, found, same⟩ := List.mem_map.mp member
    cases same
    obtain ⟨present, kept⟩ := List.mem_filter.mp found
    exact ⟨List.mem_map.mpr ⟨entry, present, rfl⟩, kept⟩
  · rintro ⟨member, kept⟩
    obtain ⟨entry, found, same⟩ := List.mem_map.mp member
    cases same
    exact List.mem_map.mpr ⟨entry, List.mem_filter.mpr ⟨found, kept⟩, rfl⟩

@[simp] theorem get?_retain (map : HashMap Key Value) (keep : Key → Value → Bool) (key : Key) :
    (map.retain keep).get? key = (map.get? key).filter (keep key) := by
  ext value
  rw [← mem_iter, mem_iter_retain, mem_iter, Option.filter_eq_some_iff]

omit [DecidableEq Key] in
theorem length_keys_retain_le (map : HashMap Key Value) (keep : Key → Value → Bool) :
    (map.retain keep).keys.length ≤ map.keys.length :=
  (List.filter_sublist.map Sigma.fst).length_le

theorem length_keys_put {map : HashMap Key Value} {key : Key} (value : Value)
    (absent : map.containsKey key = false) :
    (map.put key value).keys.length = map.keys.length + 1 := by
  have missing : key ∉ map.keys := by
    rw [mem_keys]
    exact Bool.eq_false_iff.mp absent
  rw [put, AList.keys_insert, List.length_cons, List.erase_of_not_mem missing]

@[simp] theorem get?_modify (map : HashMap Key Value) (key : Key) (update : Value → Value)
    (other : Key) : (map.modify key update).get? other =
      if other = key then (map.get? other).map update else map.get? other := by
  unfold modify
  rw [get?_mapValues]
  split
  · next same => simp [same]
  · next different => simp only [Option.map_id']

@[simp] theorem get?_orInsert (map : HashMap Key Value) (key : Key) (value : Value)
    (other : Key) : (map.orInsert key value).get? other =
      if other = key then some ((map.get? key).getD value) else map.get? other := by
  unfold orInsert containsKey
  by_cases same : other = key
  · subst same
    cases found : map.get? other <;> simp [found]
  · cases found : map.get? key <;> simp [same]

/-- Lookups do not see the iteration order. -/
@[simp] theorem get?_reorder (map : HashMap Key Value) (order : List Key) (key : Key) :
    (map.reorder order).get? key = map.get? key := by
  induction order with
  | nil => rfl
  | cons head rest ih =>
      change (match (map.reorder rest).get? head with
        | some value => (map.reorder rest).put head value
        | none => map.reorder rest).get? key = map.get? key
      cases found : (map.reorder rest).get? head with
      | none => exact ih
      | some value =>
          simp only [get?_put]
          split
          · next same => rw [same] at ih ⊢; rw [← ih, found]
          · exact ih

/-- Any entry may come first. -/
theorem find?_iter_reorder {map : HashMap Key Value} {key : Key} {value : Value}
    {select : Key × Value → Bool} (found : map.get? key = some value)
    (selected : select (key, value) = true) :
    (map.reorder [key]).iter.find? select = some (key, value) := by
  have front : map.reorder [key] = map.put key value := by
    simp [reorder, found]
  rw [front, put, iter, AList.entries_insert, List.map_cons]
  exact List.find?_cons_of_pos selected

/-- What different values never share is selected only once. -/
theorem nodup_filterMap_values {map : HashMap Key Value} {Item : Type}
    {select : Value → Option Item}
    (injective : ∀ key other value current item, map.get? key = some value →
      map.get? other = some current → select value = some item → select current = some item →
        key = other) : (map.values.filterMap select).Nodup := by
  have apart : map.iter.Pairwise fun entry other => entry.1 ≠ other.1 := by
    have keys : map.iter.map Prod.fst = map.keys := by
      simp [AList.keys, List.keys, iter]
    have nodup := map.nodupKeys
    rw [show map.entries.NodupKeys = (map.iter.map Prod.fst).Nodup by rw [keys]; rfl] at nodup
    exact List.pairwise_map.mp nodup
  unfold values List.Nodup
  rw [List.filterMap_map, List.pairwise_filterMap]
  refine apart.imp_of_mem ?_
  rintro ⟨key, value⟩ ⟨other, current⟩ member memberToo different item selected again selectedToo
    rfl
  exact different (injective key other value current item (mem_iter.mp member)
    (mem_iter.mp memberToo) selected selectedToo)

/-- Counting the values with a property counts the keys that have such a value. -/
theorem length_filter_values (map : HashMap Key Value) (keep : Value → Bool) :
    (map.values.filter keep).length =
      (map.keys.filter fun key => (map.get? key).any keep).length := by
  have keys : map.keys = map.iter.map Prod.fst := by
    simp [AList.keys, List.keys, iter]
  have selected : ∀ entry ∈ map.iter,
      (keep ∘ Prod.snd) entry = ((fun key => (map.get? key).any keep) ∘ Prod.fst) entry := by
    rintro ⟨key, value⟩ member
    simp [mem_iter.mp member]
  rw [keys, values, List.filter_map, List.filter_map, List.length_map, List.length_map,
    List.filter_congr selected]

/-- No more values have the property than there are keys in a list that covers
them. -/
theorem length_filter_values_le {map : HashMap Key Value} {keep : Value → Bool} {cover : List Key}
    (covered : ∀ key value, map.get? key = some value → keep value = true → key ∈ cover) :
    (map.values.filter keep).length ≤ cover.length := by
  rw [length_filter_values]
  refine (List.subperm_of_subset (map.nodupKeys.filter _) fun key member => ?_).length_le
  obtain ⟨_, kept⟩ := List.mem_filter.mp member
  obtain ⟨value, found, keeps⟩ := (Option.any_eq_true _ _).mp kept
  exact covered key value found keeps

section Count

variable {before after : HashMap Key Value} {keep : Value → Bool}

/-- Where the property is not new, no more values have it than before. -/
theorem length_filter_values_mono
    (kept : ∀ key new, after.get? key = some new → keep new = true →
      ∃ old, before.get? key = some old ∧ keep old = true) :
    (after.values.filter keep).length ≤ (before.values.filter keep).length := by
  rw [length_filter_values before]
  refine length_filter_values_le fun key new found keeps => ?_
  obtain ⟨old, was, kept⟩ := kept key new found keeps
  exact List.mem_filter.mpr ⟨mem_keys.mpr (by rw [was]; rfl), by rw [was]; exact kept⟩

/-- The same if the property may be new at one key. -/
theorem length_filter_values_succ (entered : Key)
    (kept : ∀ key new, after.get? key = some new → keep new = true → key ≠ entered →
      ∃ old, before.get? key = some old ∧ keep old = true) :
    (after.values.filter keep).length ≤ (before.values.filter keep).length + 1 := by
  have covered : ∀ key new, after.get? key = some new → keep new = true →
      key ∈ entered :: before.keys.filter fun key => (before.get? key).any keep := by
    intro key new found keeps
    by_cases same : key = entered
    · exact List.mem_cons.mpr (.inl same)
    · obtain ⟨old, was, kept⟩ := kept key new found keeps same
      exact List.mem_cons_of_mem _
        (List.mem_filter.mpr ⟨mem_keys.mpr (by rw [was]; rfl), by rw [was]; exact kept⟩)
  rw [length_filter_values before]
  exact length_filter_values_le covered

end Count

theorem isEmpty_iff {map : HashMap Key Value} :
    map.isEmpty = true ↔ ∀ key, map.get? key = none := by
  unfold isEmpty
  constructor
  · intro empty key
    have entries : map.entries = [] := List.isEmpty_iff.mp empty
    cases found : map.get? key with
    | none => rfl
    | some value =>
        have member := mem_iter.mpr found
        simp [iter, entries] at member
  · intro absent
    cases entries : map.entries with
    | nil => rfl
    | cons entry rest =>
        have member : (entry.1, entry.2) ∈ map.iter := by simp [iter, entries]
        rw [mem_iter, absent] at member
        cases member

end HashMap

/-- A hash set is a hash map to the unit type. -/
abbrev HashSet (Key : Type) := HashMap Key Unit

namespace HashSet

variable {Key : Type} [DecidableEq Key]

def contains (set : HashSet Key) (key : Key) : Bool :=
  HashMap.containsKey set key

def add (set : HashSet Key) (key : Key) : HashSet Key :=
  if set.contains key then set else HashMap.put set key ()

def discard (set : HashSet Key) (key : Key) : HashSet Key :=
  HashMap.remove set key

/-- Keep the members that satisfy `keep`. -/
def retain (set : HashSet Key) (keep : Key → Bool) : HashSet Key where
  entries := set.entries.filter fun entry => keep entry.1
  nodupKeys := (List.filter_sublist.map Sigma.fst).nodup set.nodupKeys

/-- Equality of sets, whatever their iteration orders are. -/
def sameMembers (left right : HashSet Key) : Bool :=
  (left.keys.all fun key => right.contains key) && right.keys.all fun key => left.contains key

theorem contains_iff_mem_keys {set : HashSet Key} {key : Key} :
    set.contains key = true ↔ key ∈ set.keys := by
  unfold contains HashMap.containsKey
  exact HashMap.mem_keys.symm

@[simp] theorem contains_empty (key : Key) : contains (∅ : HashSet Key) key = false := by
  simp [contains, HashMap.containsKey]

@[simp] theorem contains_add (set : HashSet Key) (key other : Key) :
    (set.add key).contains other = (decide (other = key) || set.contains other) := by
  unfold add
  by_cases present : set.contains key = true
  · by_cases same : other = key
    · simp [same, present]
    · simp [same, present]
  · rw [if_neg present]
    by_cases same : other = key
    · simp [contains, HashMap.containsKey, same]
    · simp [contains, HashMap.containsKey, same]

@[simp] theorem contains_discard (set : HashSet Key) (key other : Key) :
    (set.discard key).contains other = (!decide (other = key) && set.contains other) := by
  unfold discard contains HashMap.containsKey
  by_cases same : other = key
  · simp [same]
  · simp [same]

@[simp] theorem contains_retain (set : HashSet Key) (keep : Key → Bool) (key : Key) :
    (set.retain keep).contains key = (set.contains key && keep key) := by
  rw [Bool.eq_iff_iff, contains_iff_mem_keys, Bool.and_eq_true, contains_iff_mem_keys]
  simp only [AList.keys, List.keys, retain, List.mem_map, List.mem_filter]
  constructor
  · rintro ⟨entry, ⟨member, kept⟩, rfl⟩
    exact ⟨⟨entry, member, rfl⟩, kept⟩
  · rintro ⟨⟨entry, member, rfl⟩, kept⟩
    exact ⟨entry, ⟨member, kept⟩, rfl⟩

@[simp] theorem contains_reorder (set : HashSet Key) (order : List Key) (key : Key) :
    contains (HashMap.reorder set order) key = set.contains key := by
  simp [contains, HashMap.containsKey]

theorem sameMembers_iff {left right : HashSet Key} :
    left.sameMembers right = true ↔ ∀ key, left.contains key = right.contains key := by
  unfold sameMembers
  simp only [Bool.and_eq_true, List.all_eq_true, ← contains_iff_mem_keys]
  constructor
  · rintro ⟨forward, backward⟩ key
    rw [Bool.eq_iff_iff]
    exact ⟨forward key, backward key⟩
  · intro same
    exact ⟨fun key member => same key ▸ member, fun key member => (same key).symm ▸ member⟩

/-- Inserting the selected keys of a list, one after the other. -/
theorem contains_foldl_add {Item : Type} (items : List Item) (select : Item → Option Key)
    (set : HashSet Key) (key : Key) :
    (items.foldl (fun set item => (select item).elim set set.add) set).contains key = true ↔
      set.contains key = true ∨ ∃ item ∈ items, select item = some key := by
  induction items generalizing set with
  | nil => simp
  | cons head rest ih =>
      rw [List.foldl_cons, ih]
      cases chosen : select head with
      | none => simp [chosen]
      | some added =>
          simp only [Option.elim_some, contains_add, Bool.or_eq_true, decide_eq_true_eq,
            List.mem_cons, exists_eq_or_imp, chosen, Option.some.injEq]
          constructor
          · rintro ((rfl | member) | later)
            · exact .inr (.inl rfl)
            · exact .inl member
            · exact .inr (.inr later)
          · rintro (member | rfl | later)
            · exact .inl (.inr member)
            · exact .inl (.inl rfl)
            · exact .inr later

end HashSet

end Kaigi.Collections
