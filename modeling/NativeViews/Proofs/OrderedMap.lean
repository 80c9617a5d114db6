import Mathlib.Data.List.Basic
import Mathlib.Data.List.Induction
import NativeViews.OrderedMap

/-!
Ordered maps built pair by pair: as long as the keys are new, the entries are the pairs. What is
found under a key is what was put there last.
-/

namespace NativeViews.OrderedMap

variable {α β ε : Type}

theorem putEntry_of_fresh {key : String} {entries : List (String × α)}
    (fresh : key ∉ entries.map Prod.fst) (value : α) :
    putEntry key value entries = entries ++ [(key, value)] := by
  induction entries with
  | nil => rfl
  | cons entry rest ih =>
    simp only [List.map_cons, List.mem_cons, not_or] at fresh
    rw [putEntry, if_neg (Ne.symm fresh.1), ih fresh.2, List.cons_append]

theorem entries_insert_fold {map : OrderedMap α} {pairs : List (String × α)}
    (distinct : ((map.entries ++ pairs).map Prod.fst).Nodup) :
    (pairs.foldl (fun map pair => map.insert pair.1 pair.2) map).entries
      = map.entries ++ pairs := by
  induction pairs generalizing map with
  | nil => simp
  | cons pair pairs ih =>
    have fresh : pair.1 ∉ map.entries.map Prod.fst := by
      rw [List.map_append, List.map_cons, List.nodup_append] at distinct
      intro present
      exact distinct.2.2 pair.1 present pair.1 (by simp) rfl
    have grown : (map.insert pair.1 pair.2).entries = map.entries ++ [pair] :=
      putEntry_of_fresh fresh pair.2
    have split : map.entries ++ pair :: pairs = map.entries ++ [pair] ++ pairs := by simp
    rw [split, ← grown] at distinct
    rw [List.foldl_cons, ih distinct, grown, ← split]

/-- Pairs with distinct keys become entries in their order. -/
theorem entries_ofList {pairs : List (String × α)} (distinct : (pairs.map Prod.fst).Nodup) :
    (ofList pairs).entries = pairs := by
  have built : (ofList pairs).entries = empty.entries ++ pairs := entries_insert_fold distinct
  simpa [empty] using built

theorem ofList_entries (map : OrderedMap α) : ofList map.entries = map := by
  have same := entries_ofList map.nodup
  cases built : ofList map.entries with
  | mk entries nodup =>
    rw [built] at same
    cases map
    congr

theorem mapM_ok {image : α → β} {read : β → Except ε α} {values : List α}
    (reads : ∀ value ∈ values, read (image value) = .ok value) :
    (values.map image).mapM read = .ok values := by
  induction values with
  | nil => rfl
  | cons value values ih =>
    obtain ⟨first, others⟩ := List.forall_mem_cons.mp reads
    rw [List.map_cons, List.mapM_cons, first, ih others]
    rfl

/-- Reading every image back reads the whole map back. -/
theorem mapM_ofList {image : α → β} {read : β → Except ε α} {map : OrderedMap α}
    (reads : ∀ entry ∈ map.entries, read (image entry.2) = .ok entry.2) :
    (ofList (map.entries.map fun entry => (entry.1, image entry.2))).mapM read = .ok map := by
  have distinct : ((map.entries.map fun entry => (entry.1, image entry.2)).map Prod.fst).Nodup := by
    simpa [Function.comp_def] using map.nodup
  rw [mapM, entries_ofList distinct, mapM_ok]
  · exact congrArg Except.ok (ofList_entries map)
  · intro entry member
    simp only [reads entry member]
    rfl

/-! ## Entries by key -/

theorem lookup_entry_cons (name other : String) (held : α) (entries : List (String × α)) :
    ((name, held) :: entries).lookup other
      = if other = name then some held else entries.lookup other := by
  rw [List.lookup_cons]
  by_cases same : other = name
  · simp [same]
  · simp [beq_eq_false_iff_ne.mpr same, same]

theorem lookup_of_mem {entries : List (String × α)} (distinct : (entries.map Prod.fst).Nodup)
    {key : String} {value : α} (member : (key, value) ∈ entries) :
    entries.lookup key = some value := by
  induction entries with
  | nil => exact nomatch member
  | cons entry entries ih =>
    obtain ⟨fresh, distinct⟩ := List.nodup_cons.mp distinct
    rw [lookup_entry_cons]
    rcases List.mem_cons.mp member with here | later
    · rw [← here, if_pos rfl]
    · have other : key ≠ entry.1 := fun same =>
        fresh (same ▸ List.mem_map_of_mem (f := Prod.fst) later)
      rw [if_neg other, ih distinct later]

theorem get?_eq_some_iff {map : OrderedMap α} {key : String} {value : α} :
    map.get? key = some value ↔ (key, value) ∈ map.entries := by
  constructor
  · intro found
    obtain ⟨before, after, split, _⟩ := List.lookup_eq_some_iff.mp found
    rw [split]
    exact List.mem_append_right before List.mem_cons_self
  · exact lookup_of_mem map.nodup

theorem get?_eq_none_iff {map : OrderedMap α} {key : String} :
    map.get? key = none ↔ key ∉ map.keys := by
  rw [keys, List.mem_map, Option.eq_none_iff_forall_ne_some]
  simp only [ne_eq, get?_eq_some_iff]
  constructor
  · rintro absent ⟨entry, member, rfl⟩
    exact absent entry.2 member
  · intro absent value member
    exact absent ⟨(key, value), member, rfl⟩

theorem lookup_putEntry (key other : String) (value : α) (entries : List (String × α)) :
    (putEntry key value entries).lookup other
      = if other = key then some value else entries.lookup other := by
  induction entries with
  | nil => rw [putEntry, lookup_entry_cons]
  | cons entry entries ih =>
    obtain ⟨name, held⟩ := entry
    by_cases same : name = key
    · subst same
      rw [putEntry, if_pos rfl, lookup_entry_cons, lookup_entry_cons]
      split <;> rfl
    · rw [putEntry, if_neg same, lookup_entry_cons, lookup_entry_cons, ih]
      by_cases asked : other = name
      · simp [asked, same]
      · simp [asked]

theorem keys_insert (map : OrderedMap α) (key : String) (value : α) :
    (map.insert key value).keys = if key ∈ map.keys then map.keys else map.keys ++ [key] :=
  keys_putEntry key value map.entries

theorem get?_insert (map : OrderedMap α) (key other : String) (value : α) :
    (map.insert key value).get? other = if other = key then some value else map.get? other :=
  lookup_putEntry key other value map.entries

theorem putEntry_of_lookup {key : String} {value : α} {entries : List (String × α)}
    (found : entries.lookup key = some value) : putEntry key value entries = entries := by
  induction entries with
  | nil => exact nomatch found
  | cons entry entries ih =>
    obtain ⟨name, held⟩ := entry
    rw [lookup_entry_cons] at found
    by_cases same : name = key
    · subst same
      rw [if_pos rfl, Option.some.injEq] at found
      rw [putEntry, if_pos rfl, found]
    · rw [if_neg (Ne.symm same)] at found
      rw [putEntry, if_neg same, ih found]

theorem lookup_filter_ne (key other : String) (entries : List (String × α)) :
    (entries.filter fun entry => entry.1 != key).lookup other
      = if other = key then none else entries.lookup other := by
  induction entries with
  | nil => simp
  | cons entry entries ih =>
    obtain ⟨name, held⟩ := entry
    by_cases same : name = key
    · rw [List.filter_cons_of_neg (by simp [same]), ih, lookup_entry_cons, same]
      split <;> rfl
    · rw [List.filter_cons_of_pos (by simp [same]), lookup_entry_cons, lookup_entry_cons, ih]
      by_cases asked : other = name
      · simp [asked, same]
      · simp [asked]

/-! ## Keys that come more than once -/

theorem ofList_concat (pairs : List (String × α)) (pair : String × α) :
    ofList (pairs ++ [pair]) = (ofList pairs).insert pair.1 pair.2 := by
  rw [ofList, List.foldl_append]
  rfl

/-- The keys stand where they came first. -/
theorem keys_ofList (pairs : List (String × α)) :
    (ofList pairs).keys = (pairs.map Prod.fst).eraseDups := by
  -- Pairs are taken from the end, since an insertion looks at what has come before.
  induction pairs using List.reverseRecOn with
  | nil => rfl
  | append_singleton pairs pair ih =>
    have known : pair.1 ∈ (ofList pairs).entries.map Prod.fst ↔ pair.1 ∈ pairs.map Prod.fst :=
      (congrArg (pair.1 ∈ ·) ih).to_iff.trans List.mem_eraseDups
    rw [keys] at ih
    rw [ofList_concat, keys, insert, keys_putEntry, ih, List.map_append, List.eraseDups_append,
      List.map_singleton, ← ih]
    by_cases present : pair.1 ∈ pairs.map Prod.fst
    · simp [if_pos (known.mpr present), List.removeAll, present]
    · simp [if_neg (mt known.mp present), List.removeAll, present, List.eraseDups_cons]

/-- A key has the value that came last. -/
theorem get?_ofList (pairs : List (String × α)) (key : String) :
    (ofList pairs).get? key = pairs.reverse.lookup key := by
  induction pairs using List.reverseRecOn with
  | nil => rfl
  | append_singleton pairs pair ih =>
    rw [ofList_concat, get?, insert, lookup_putEntry, List.reverse_append, List.reverse_singleton,
      List.singleton_append, lookup_entry_cons, ← ih, get?]

/-- The pairs that count: every key once, where it stands first, with the value that stands last. -/
def settled (pairs : List (String × α)) : List (String × α) :=
  (pairs.map Prod.fst).eraseDups.filterMap fun key => (pairs.reverse.lookup key).map (key, ·)

theorem entries_eq_filterMap (map : OrderedMap α) :
    map.entries = map.keys.filterMap fun key => (map.get? key).map (key, ·) := by
  have found : ∀ entry ∈ map.entries,
      (map.get? entry.1).map (entry.1, ·) = some entry := fun entry member => by
    rw [get?, lookup_of_mem map.nodup member, Option.map_some]
  rw [keys, List.filterMap_map]
  exact ((List.filterMap_congr found).trans List.filterMap_some).symm

theorem entries_ofList_eq_settled (pairs : List (String × α)) :
    (ofList pairs).entries = settled pairs := by
  rw [entries_eq_filterMap, keys_ofList, settled]
  simp only [get?_ofList]

/-- Values may be changed before or after it is settled which of them count. -/
theorem settled_map (change : α → β) (pairs : List (String × α)) :
    settled (pairs.map fun pair => (pair.1, change pair.2))
      = (settled pairs).map fun pair => (pair.1, change pair.2) := by
  have lookup (entries : List (String × α)) (key : String) :
      (entries.map fun pair => (pair.1, change pair.2)).lookup key
        = (entries.lookup key).map change := by
    induction entries with
    | nil => rfl
    | cons entry entries ih =>
      rw [List.map_cons, lookup_entry_cons, ih, lookup_entry_cons]
      split <;> rfl
  simp only [settled, List.map_map, ← List.map_reverse, lookup, List.map_filterMap, Option.map_map]
  rfl

end NativeViews.OrderedMap
