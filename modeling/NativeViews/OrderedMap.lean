/-!
Maps from names to values that remember the order of their keys. A key keeps the place of its
first insertion and the value of its last one.
-/

namespace NativeViews

/-- Entries with distinct keys, in the order in which the keys came. -/
structure OrderedMap (α : Type) where
  entries : List (String × α)
  nodup : (entries.map Prod.fst).Nodup
  deriving DecidableEq

namespace OrderedMap

variable {α β : Type}

def empty : OrderedMap α := ⟨[], by simp⟩

instance : Inhabited (OrderedMap α) := ⟨empty⟩

def keys (map : OrderedMap α) : List String := map.entries.map Prod.fst

def values (map : OrderedMap α) : List α := map.entries.map Prod.snd

def size (map : OrderedMap α) : Nat := map.entries.length

def isEmpty (map : OrderedMap α) : Bool := map.entries.isEmpty

def get? (map : OrderedMap α) (key : String) : Option α := map.entries.lookup key

/-- Entries with `value` under `key`: in the place of the key, or at the end. -/
def putEntry (key : String) (value : α) : List (String × α) → List (String × α)
  | [] => [(key, value)]
  | entry :: rest =>
    if entry.1 = key then (key, value) :: rest else entry :: putEntry key value rest

theorem keys_putEntry (key : String) (value : α) (entries : List (String × α)) :
    (putEntry key value entries).map Prod.fst =
      if key ∈ entries.map Prod.fst then entries.map Prod.fst
      else entries.map Prod.fst ++ [key] := by
  induction entries with
  | nil => simp [putEntry]
  | cons entry rest ih =>
    by_cases same : entry.1 = key
    · simp [putEntry, same]
    · by_cases member : key ∈ rest.map Prod.fst
      · simp only [putEntry, if_neg same, List.map_cons, ih, List.mem_cons,
          member, or_true, if_true]
      · have fresh : ¬ (key = entry.1 ∨ key ∈ rest.map Prod.fst) := by
          rintro (equal | present)
          · exact same equal.symm
          · exact member present
        simp only [putEntry, if_neg same, List.map_cons, ih, if_neg member, List.mem_cons,
          if_neg fresh, List.cons_append]

theorem nodup_putEntry {entries : List (String × α)} (nodup : (entries.map Prod.fst).Nodup)
    (key : String) (value : α) : ((putEntry key value entries).map Prod.fst).Nodup := by
  rw [keys_putEntry]
  split
  · exact nodup
  · next fresh =>
    rw [List.nodup_append]
    refine ⟨nodup, by simp, ?_⟩
    intro present member other single
    simp only [List.mem_singleton] at single
    subst single
    exact fun equal => fresh (equal ▸ member)

def insert (map : OrderedMap α) (key : String) (value : α) : OrderedMap α :=
  ⟨putEntry key value map.entries, nodup_putEntry map.nodup key value⟩

/-- The map that results from inserting pairs one by one. -/
def ofList (pairs : List (String × α)) : OrderedMap α :=
  pairs.foldl (fun map pair => map.insert pair.1 pair.2) empty

/-- The map with every value replaced by its image, or the first failure in the order of the
keys. -/
def mapM {m : Type → Type} [Monad m] (f : α → m β) (map : OrderedMap α) : m (OrderedMap β) := do
  let pairs ← map.entries.mapM fun (key, value) => do
    let image ← f value
    pure (key, image)
  pure (ofList pairs)

end OrderedMap

end NativeViews
