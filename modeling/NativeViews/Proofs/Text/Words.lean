import NativeViews.Text.Words
import Mathlib.Data.List.Basic

/-!
What is left of a name in Pascal case. Changing the case of characters neither drops one nor makes a
slash, and splitting a name into words drops nothing but separators: so the name in Pascal case is
empty exactly if it is made of separators, and holds no slash if the name holds none.
-/

namespace NativeViews.Text

/-! ## Changing case -/

theorem ofNat_eq_slash {point : Nat} (slash : Char.ofNat point = '/') : point = 0x2F := by
  by_cases valid : point.isValidChar
  · rw [Char.ofNat, dif_pos valid] at slash
    exact congrArg Char.toNat slash
  · rw [Char.ofNat, dif_neg valid] at slash
    exact absurd slash (by decide)

section Mapping

variable {runs : List CaseRun} {expansions : List (Nat × List Nat)}

theorem mem_of_lookup {point : Nat} {points : List Nat}
    (found : expansions.lookup point = some points) : (point, points) ∈ expansions := by
  obtain ⟨before, after, split, _⟩ := List.lookup_eq_some_iff.mp found
  simp [split]

theorem mapCase_ne_nil (some : ∀ expansion ∈ expansions, expansion.2 ≠ []) (c : Char) :
    mapCase runs expansions c ≠ [] := by
  unfold mapCase
  split
  · next points found => simpa using some _ (mem_of_lookup found)
  · split <;> simp

/-- A case mapping makes no slash where its runs lead behind the slash, and its expansions do not
hold one. -/
theorem slash_notMem_mapCase (behind : ∀ run ∈ runs, 0x2F < (run.first : Int) + run.offset)
    (without : ∀ expansion ∈ expansions, 0x2F ∉ expansion.2) {c : Char} (plain : c ≠ '/') :
    '/' ∉ mapCase runs expansions c := by
  unfold mapCase
  split
  · next points found =>
    intro slash
    obtain ⟨point, member, image⟩ := List.mem_map.mp slash
    exact without _ (mem_of_lookup found) (ofNat_eq_slash image ▸ member)
  split
  · next point found =>
    intro slash
    obtain ⟨run, member, moved⟩ := List.exists_of_findSome?_eq_some found
    have far := behind run member
    have image := ofNat_eq_slash (List.mem_singleton.mp slash).symm
    unfold CaseRun.image? at moved
    split at moved
    · next within =>
      have same := Option.some.inj moved
      omega
    · exact nomatch moved
  · exact fun slash => plain (List.mem_singleton.mp slash).symm

end Mapping

/-- The case mappings drop no character and lead to no slash. -/
theorem case_tables :
    (∀ run ∈ upperRuns ++ lowerRuns, 0x2F < (run.first : Int) + run.offset) ∧
      ∀ expansion ∈ upperExpansions ++ lowerExpansions,
        expansion.2 ≠ [] ∧ 0x2F ∉ expansion.2 := by
  decide +kernel

theorem upper_ne_nil (c : Char) : upper c ≠ [] :=
  mapCase_ne_nil (fun _ member => (case_tables.2 _ (List.mem_append_left _ member)).1) c

theorem slash_notMem_upper {c : Char} (plain : c ≠ '/') : '/' ∉ upper c :=
  slash_notMem_mapCase (fun _ member => case_tables.1 _ (List.mem_append_left _ member))
    (fun _ member => (case_tables.2 _ (List.mem_append_left _ member)).2) plain

theorem slash_notMem_lower {c : Char} (plain : c ≠ '/') : '/' ∉ lower c :=
  slash_notMem_mapCase (fun _ member => case_tables.1 _ (List.mem_append_right _ member))
    (fun _ member => (case_tables.2 _ (List.mem_append_right _ member)).2) plain

theorem slash_notMem_lowerAfter {chars : List Char} (plain : '/' ∉ chars) (before : List Char) :
    '/' ∉ lowerAfter before chars := by
  induction chars generalizing before with
  | nil => exact plain
  | cons c rest ih =>
    obtain ⟨here, later⟩ := not_or.mp (List.mem_cons.not.mp plain)
    have small : '/' ∉ (if c = 'Σ' then
        if facesCased before && !facesCased rest then ['ς'] else ['σ'] else lower c) := by
      split
      · split <;> decide
      · exact slash_notMem_lower (Ne.symm here)
    rw [lowerAfter, List.mem_append, not_or]
    exact ⟨small, ih later _⟩

theorem capitalize_ne_nil {word : List Char} (some : word ≠ []) : capitalize word ≠ [] := by
  cases word with
  | nil => exact absurd rfl some
  | cons c rest => exact fun none => upper_ne_nil c (List.append_eq_nil_iff.mp none).1

theorem slash_notMem_capitalize {word : List Char} (plain : '/' ∉ word) :
    '/' ∉ capitalize word := by
  cases word with
  | nil => exact plain
  | cons c rest =>
    obtain ⟨here, later⟩ := not_or.mp (List.mem_cons.not.mp plain)
    rw [capitalize, List.mem_append, not_or]
    exact ⟨slash_notMem_upper (Ne.symm here), slash_notMem_lowerAfter later []⟩

/-! ## Clusters -/

theorem ne_nil_of_mem_clustersAfter {begun : List Char} (some : begun ≠ []) (tail : ClusterEnd)
    (chars : List Char) : ∀ cluster ∈ clustersAfter begun tail chars, cluster ≠ [] := by
  induction chars generalizing begun tail with
  | nil => simpa [clustersAfter] using some
  | cons c rest ih =>
    unfold clustersAfter
    split
    · exact ih (List.cons_ne_nil _ _) _
    · exact List.forall_mem_cons.mpr ⟨by simpa using some, ih (List.cons_ne_nil _ _) _⟩

theorem ne_nil_of_mem_clusters (chars : List Char) : ∀ cluster ∈ clusters chars, cluster ≠ [] := by
  cases chars with
  | nil => exact fun _ member => nomatch member
  | cons c rest => exact ne_nil_of_mem_clustersAfter (List.cons_ne_nil _ _) _ rest

/-- Whether a character separates words, where no mark joins it. -/
def separates (c : Char) : Bool :=
  c = '_' || c = '-' || c = ' '

theorem isSeparator_iff {cluster : List Char} :
    isSeparator cluster ↔ ∃ c, separates c ∧ cluster = [c] := by
  simp [isSeparator, separates, or_and_right, exists_or, or_assoc]

/-- No separator is a mark on another. -/
theorem joins_separator {first second : Char} (left : separates first) (right : separates second) :
    (ClusterEnd.start first).joins second = false := by
  simp only [separates, Bool.or_eq_true, decide_eq_true_eq] at left right
  rcases left with (rfl | rfl) | rfl <;> rcases right with (rfl | rfl) | rfl <;> decide +kernel

theorem clustersAfter_separators {c : Char} {rest : List Char} (left : separates c)
    (others : ∀ c ∈ rest, separates c) :
    clustersAfter [c] (.start c) rest = (c :: rest).map ([·]) := by
  induction rest generalizing c with
  | nil => rfl
  | cons next rest ih =>
    obtain ⟨right, others⟩ := List.forall_mem_cons.mp others
    rw [clustersAfter, joins_separator left right, ih right others]
    rfl

/-- Clusters are separators exactly if all characters are. -/
theorem forall_isSeparator_iff {chars : List Char} :
    (∀ cluster ∈ clusters chars, isSeparator cluster) ↔ ∀ c ∈ chars, separates c := by
  constructor
  · intro separators c member
    rw [← flatten_clusters chars, List.mem_flatten] at member
    obtain ⟨cluster, inside, held⟩ := member
    obtain ⟨sign, separator, rfl⟩ := isSeparator_iff.mp (separators cluster inside)
    exact List.mem_singleton.mp held ▸ separator
  · intro separators
    cases chars with
    | nil => exact fun _ member => nomatch member
    | cons c rest =>
      obtain ⟨left, others⟩ := List.forall_mem_cons.mp separators
      rw [clusters, clustersAfter_separators left others, List.forall_mem_map]
      exact fun sign member => isSeparator_iff.mpr ⟨sign, separators sign member, rfl⟩

/-! ## Words -/

/-- Words drop separators and nothing else changes. -/
theorem flatten_wordsAfter_sublist (begun : List Char) (pieces : List (List Char)) :
    (wordsAfter begun pieces).flatten.Sublist (begun.reverse ++ pieces.flatten) := by
  fun_induction wordsAfter begun pieces with
  | case1 begun => simp
  | case2 begun cluster following _ ih =>
    rw [List.flatten_cons, List.flatten_cons]
    exact (List.Sublist.refl _).append (ih.trans (List.sublist_append_right cluster _))
  | case3 begun cluster following _ _ ih =>
    rw [List.flatten_cons, List.flatten_cons, List.reverse_append, List.reverse_reverse,
      ← List.append_assoc]
    exact (List.Sublist.refl _).append ih
  | case4 begun cluster following _ _ ih =>
    rwa [List.reverse_append, List.reverse_reverse, List.append_assoc] at ih

theorem mem_of_mem_words {name word : List Char} {c : Char} (member : word ∈ words name)
    (inside : c ∈ word) : c ∈ name := by
  have kept := flatten_wordsAfter_sublist [] (clusters name)
  rw [flatten_clusters] at kept
  exact kept.subset (List.mem_flatten.mpr ⟨word, (List.mem_filter.mp member).1, inside⟩)

/-- There are no words but empty ones exactly if none has begun and separators follow. -/
theorem forall_wordsAfter_eq_nil_iff (begun : List Char) {pieces : List (List Char)}
    (some : ∀ piece ∈ pieces, piece ≠ []) :
    (∀ word ∈ wordsAfter begun pieces, word = []) ↔
      begun = [] ∧ ∀ piece ∈ pieces, isSeparator piece := by
  fun_induction wordsAfter begun pieces with
  | case1 begun => simp
  | case2 begun cluster following separator ih =>
    rw [List.forall_mem_cons, List.forall_mem_cons, ih (List.forall_mem_cons.mp some).2]
    simp [separator]
  | case3 begun cluster following inside _ _ =>
    have filled := (List.forall_mem_cons.mp some).1
    simp [filled, inside]
  | case4 begun cluster following inside _ ih =>
    have filled := (List.forall_mem_cons.mp some).1
    rw [ih (List.forall_mem_cons.mp some).2]
    simp [filled, inside]

theorem words_eq_nil_iff {name : List Char} : words name = [] ↔ ∀ c ∈ name, separates c := by
  have all := forall_wordsAfter_eq_nil_iff [] (ne_nil_of_mem_clusters name)
  rw [words, List.filter_eq_nil_iff, ← forall_isSeparator_iff]
  simpa using all

/-! ## Pascal case -/

/-- A name is lost in Pascal case exactly if it is made of separators. -/
theorem pascalCase_eq_empty_iff {name : String} :
    pascalCase name = "" ↔ ∀ c ∈ name.toList, separates c := by
  have filled : ∀ word ∈ words name.toList, word ≠ [] := by
    intro word member
    simpa using (List.mem_filter.mp member).2
  rw [← words_eq_nil_iff, pascalCase, String.ofList_eq_empty_iff, List.flatMap_eq_nil_iff]
  constructor
  · intro none
    refine List.eq_nil_iff_forall_not_mem.mpr fun word member => ?_
    exact capitalize_ne_nil (filled word member) (none word member)
  · intro none
    simp [none]

theorem slash_notMem_pascalCase {name : String} (plain : '/' ∉ name.toList) :
    '/' ∉ (pascalCase name).toList := by
  rw [pascalCase, String.toList_ofList]
  intro slash
  obtain ⟨word, member, inside⟩ := List.mem_flatMap.mp slash
  exact slash_notMem_capitalize (fun held => plain (mem_of_mem_words member held)) inside

end NativeViews.Text
