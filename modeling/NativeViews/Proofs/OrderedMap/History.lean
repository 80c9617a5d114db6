import Mathlib.Data.Finset.Card
import Mathlib.Data.List.Sort
import NativeViews.Proofs.Json.Integers
import NativeViews.Proofs.OrderedMap
import NativeViews.Proofs.Schema.WireForm
import NativeViews.Schema.Reader

/-!
What the history of a map says about it. However pairs come to a map, by insertions, as a list or
as the members of an object, the map is the one that follows from them: every key where it came
first, with the value that came last.
-/

namespace NativeViews.OrderedMap

variable {α : Type} {pairs : List (String × α)} {map other : OrderedMap α}

/-! ## Views of a map -/

/-- Every key stands with the value that is found under it. -/
theorem entries_map_some (map : OrderedMap α) :
    map.entries.map some = map.keys.map fun key => (map.get? key).map (key, ·) := by
  rw [keys, List.map_map]
  apply List.map_congr_left
  intro entry member
  have found : map.get? entry.1 = some entry.2 := get?_eq_some_iff.mpr member
  rw [Function.comp_apply, found, Option.map_some]

theorem size_eq_card (map : OrderedMap α) : map.size = map.keys.toFinset.card := by
  rw [keys, List.toFinset_card_of_nodup map.nodup, List.length_map, size]

/-- A map is known by its keys in their order and by what is found under them. -/
theorem eq_of_views (order : map.keys = other.keys)
    (values : ∀ key, map.get? key = other.get? key) : map = other := by
  have entries : map.entries = other.entries := by
    rw [entries_eq_filterMap map, entries_eq_filterMap other, order]
    simp only [values]
  rw [← ofList_entries map, entries, ofList_entries]

/-! ## Histories -/

/-- Whether a value is the last one among pairs under its key. -/
def IsLast (pairs : List (String × α)) (key : String) (value : α) : Prop :=
  ∃ before after, pairs = before ++ (key, value) :: after ∧ key ∉ after.map Prod.fst

/-- A map follows from pairs if it lists their keys without repetition in the order in which they
come first, has under each key what comes last, and counts the keys. -/
structure Follows (pairs : List (String × α)) (map : OrderedMap α) : Prop where
  distinct : map.keys.Nodup
  inserted : ∀ key, key ∈ map.keys ↔ key ∈ pairs.map Prod.fst
  ordered : map.keys.Pairwise fun first second =>
    (pairs.map Prod.fst).idxOf first < (pairs.map Prod.fst).idxOf second
  found : ∀ key value, map.get? key = some value ↔ IsLast pairs key value
  missing : ∀ key, map.get? key = none ↔ key ∉ pairs.map Prod.fst
  paired : map.entries.map some = map.keys.map fun key => (map.get? key).map (key, ·)
  counted : map.size = (pairs.map Prod.fst).toFinset.card

theorem isLast_concat_iff {key asked : String} {value held : α} :
    IsLast (pairs ++ [(key, value)]) asked held ↔
      if asked = key then held = value else IsLast pairs asked held := by
  constructor
  · rintro ⟨before, after, same, last⟩
    rcases List.eq_nil_or_concat after with rfl | ⟨after, pair, rfl⟩
    · obtain ⟨-, single⟩ := List.append_inj' same rfl
      obtain ⟨rfl, rfl⟩ := Prod.mk.inj (List.cons.inj single).1
      rw [if_pos rfl]
    · rw [List.concat_eq_append] at same last
      rw [← List.cons_append, ← List.append_assoc] at same
      obtain ⟨rfl, single⟩ := List.append_inj' same rfl
      obtain rfl := (List.cons.inj single).1
      rw [List.map_append, List.mem_append, not_or] at last
      rw [if_neg fun equal => last.2 (by simp [equal])]
      exact ⟨before, after, rfl, last.1⟩
  · split
    · next equal =>
      rintro rfl
      rw [equal]
      exact ⟨pairs, [], rfl, List.not_mem_nil⟩
    · next different =>
      rintro ⟨before, after, rfl, last⟩
      refine ⟨before, after ++ [(key, value)], by simp, ?_⟩
      rw [List.map_append, List.mem_append, not_or]
      exact ⟨last, by simpa using different⟩

namespace Follows

/-- Of a map that follows, its keys in their order and its values say the rest. -/
theorem of_views (inserted : ∀ key, key ∈ map.keys ↔ key ∈ pairs.map Prod.fst)
    (ordered : map.keys.Pairwise fun first second =>
      (pairs.map Prod.fst).idxOf first < (pairs.map Prod.fst).idxOf second)
    (found : ∀ key value, map.get? key = some value ↔ IsLast pairs key value) :
    Follows pairs map where
  distinct := map.nodup
  inserted := inserted
  ordered := ordered
  found := found
  missing := fun key => get?_eq_none_iff.trans (not_congr (inserted key))
  paired := entries_map_some map
  counted := by
    rw [size_eq_card]
    congr 1
    ext key
    rw [List.mem_toFinset, List.mem_toFinset, inserted]

theorem nil : Follows [] (empty : OrderedMap α) := by
  apply of_views
  · intro key
    rfl
  · exact .nil
  · intro key value
    constructor
    · intro found
      exact nomatch found
    · rintro ⟨before, after, same, -⟩
      exact absurd same.symm (by simp)

/-- An insertion carries a history on: a known key keeps its place, a new one comes last. -/
theorem insert (follows : Follows pairs map) (key : String) (value : α) :
    Follows (pairs ++ [(key, value)]) (map.insert key value) := by
  have kept {known : String} (member : known ∈ map.keys) :
      ((pairs ++ [(key, value)]).map Prod.fst).idxOf known = (pairs.map Prod.fst).idxOf known := by
    rw [List.map_append]
    exact List.idxOf_append_of_mem ((follows.inserted known).mp member)
  have ordered : map.keys.Pairwise fun first second =>
      ((pairs ++ [(key, value)]).map Prod.fst).idxOf first
        < ((pairs ++ [(key, value)]).map Prod.fst).idxOf second := by
    apply follows.ordered.imp_of_mem
    intro first second memberFirst memberSecond before
    rwa [kept memberFirst, kept memberSecond]
  apply of_views
  · intro asked
    rw [keys_insert, List.map_append, List.mem_append, ← follows.inserted asked]
    split
    · next known =>
      refine ⟨.inl, ?_⟩
      rintro (member | single)
      · exact member
      · obtain rfl := List.mem_singleton.mp single
        exact known
    · exact List.mem_append
  · rw [keys_insert]
    split
    · exact ordered
    · next fresh =>
      rw [List.pairwise_append]
      refine ⟨ordered, List.pairwise_singleton _ _, ?_⟩
      intro known member last single
      obtain rfl := List.mem_singleton.mp single
      have absent := mt (follows.inserted last).mpr fresh
      rw [kept member, List.map_append, List.idxOf_append_of_notMem absent]
      exact Nat.lt_add_right _ (List.idxOf_lt_length_of_mem ((follows.inserted known).mp member))
  · intro asked held
    rw [get?_insert, isLast_concat_iff]
    split
    · rw [Option.some.injEq, eq_comm]
    · exact follows.found asked held

/-- Insertions one after another carry a history on. -/
theorem foldl (follows : Follows pairs map) (later : List (String × α)) :
    Follows (pairs ++ later) (later.foldl (fun map pair => map.insert pair.1 pair.2) map) := by
  induction later generalizing pairs map with
  | nil => rwa [List.append_nil]
  | cons pair later ih =>
    have next := ih (follows.insert pair.1 pair.2)
    rwa [List.append_assoc] at next

theorem of_ofList (pairs : List (String × α)) : Follows pairs (ofList pairs) :=
  nil.foldl pairs

/-- A history leaves no choice. -/
theorem unique (follows : Follows pairs map) (others : Follows pairs other) : map = other := by
  apply eq_of_views
  · have same : map.keys.Perm other.keys := by
      rw [List.perm_ext_iff_of_nodup follows.distinct others.distinct]
      intro key
      rw [follows.inserted, others.inserted]
    apply same.eq_of_pairwise _ follows.ordered others.ordered
    intro first second _ _ before after
    exact absurd after (Nat.lt_asymm before)
  · intro key
    apply Option.ext
    intro value
    rw [follows.found, others.found]

end Follows

theorem eq_ofList_iff : map = ofList pairs ↔ Follows pairs map := by
  constructor
  · rintro rfl
    exact Follows.of_ofList pairs
  · intro follows
    exact follows.unique (Follows.of_ofList pairs)

/-! ## Maps as documents -/

/-- What an object spells follows from its members. -/
theorem ofText_ok_iff [Libraries] {read : Nat → Json → Option α} {text : String} :
    ofText read text = .ok map ↔ ∃ members pairs,
      Json.parse? text = some (.object members) ∧
      List.Forall₂ (fun member pair =>
        member.1 = some pair.1 ∧ read (Json.depthLimit - 1) member.2 = some pair.2) members pairs ∧
      Follows pairs map := by
  have spelled : ofText read text = .ok map ↔ ∃ pairs,
      (Json.parse? text).bind (Json.entries? read (Json.depthLimit - 1 + 1)) = some pairs ∧
        ofList pairs = map := by
    rw [← Option.map_eq_some_iff, Option.map_bind, ofText, Wire.readText]
    split
    · next found =>
      rw [Except.ok.injEq, ← Option.some.injEq, ← found]
      rfl
    · next failed =>
      refine iff_of_false (fun same => nomatch same) fun same => ?_
      exact nomatch failed.symm.trans same
  rw [spelled]
  constructor
  · rintro ⟨pairs, read, made⟩
    obtain ⟨json, parsed, entries⟩ := Option.bind_eq_some_iff.mp read
    obtain ⟨members, rfl, related⟩ := Json.entries?_eq_some_iff.mp entries
    exact ⟨members, pairs, parsed, related, eq_ofList_iff.mp made.symm⟩
  · rintro ⟨members, pairs, parsed, related, follows⟩
    refine ⟨pairs, ?_, (eq_ofList_iff.mpr follows).symm⟩
    rw [parsed, Option.bind_some]
    exact Json.entries?_eq_some_iff.mpr ⟨members, rfl, related⟩

/-- Integers that a reader takes are read back with their keys in their order. -/
theorem ofText_render_int [Libraries] (low high : Int) (map : OrderedMap Int) :
    ofText (fun _ => Json.int? low high) (map.toJson Json.int).render = .ok map ↔
      ∀ value ∈ map.values, low ≤ value ∧ value ≤ high := by
  have parsed : Json.parse? (map.toJson Json.int).render = some (map.toJson Json.int) :=
    Json.parse?_render (spelled_toJson fun entry _ => Json.spelled_int entry.2)
  rw [ofText, Wire.readText, parsed, Option.bind_some]
  constructor
  · intro read value member
    obtain ⟨entry, inside, rfl⟩ := List.mem_map.mp member
    by_contra outside
    have failed : Json.entries? (fun _ => Json.int? low high) Json.depthLimit
        (map.toJson Json.int) = none :=
      Json.entries?_record_eq_none inside (by rw [Json.int?_int, if_neg outside])
    rw [failed] at read
    exact nomatch read
  · intro within
    have entries : Json.entries? (fun _ => Json.int? low high) Json.depthLimit
        (map.toJson Json.int) = some (map.entries.map fun entry => (entry.1, id entry.2)) := by
      apply Json.entries?_record
      intro entry member
      rw [Json.int?_int, if_pos (within entry.2 (List.mem_map_of_mem member))]
      rfl
    rw [entries, Option.map_some]
    simp only [id_eq, Prod.mk.eta, List.map_id', ofList_entries]

/-- A map is what follows from its history. The insertions of pairs one by one into the empty map,
the same pairs as a list, and an object whose members read as these pairs make one and the same
map: its keys are the keys of the pairs, each once, in the order of their first insertions; under
each key it has the value of the last insertion, and nothing under any other key; its entries are
the keys with these values, and its size is the number of the different keys. A map of integers is
read back from its document, key by key in the same order, by every reader that takes its
integers. -/
theorem follows_of_insertions [Libraries] (α : Type) :
    (∀ (pairs : List (String × α)) (map : OrderedMap α),
      (pairs.foldl (fun map pair => map.insert pair.1 pair.2) empty = map ↔ Follows pairs map) ∧
      (ofList pairs = map ↔ Follows pairs map)) ∧
    (∀ (read : Nat → Json → Option α) (text : String) (map : OrderedMap α),
      ofText read text = .ok map ↔ ∃ members pairs,
        Json.parse? text = some (.object members) ∧
        List.Forall₂ (fun member pair =>
          member.1 = some pair.1 ∧ read (Json.depthLimit - 1) member.2 = some pair.2)
          members pairs ∧
        Follows pairs map) ∧
    (∀ (low high : Int) (map : OrderedMap Int),
      ofText (fun _ => Json.int? low high) (map.toJson Json.int).render = .ok map ↔
        ∀ value ∈ map.values, low ≤ value ∧ value ≤ high) := by
  refine ⟨?_, ?_, ofText_render_int⟩
  · intro pairs map
    rw [← eq_ofList_iff, eq_comm (a := map)]
    exact ⟨Iff.rfl, Iff.rfl⟩
  · intro read text map
    exact ofText_ok_iff

/-- A key keeps its place when its value changes. -/
example : (ofList [("b", 1), ("a", 2), ("b", 3)]).entries = [("b", 3), ("a", 2)] := by
  decide

end NativeViews.OrderedMap
