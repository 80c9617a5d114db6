import Mathlib.Data.Set.Function
import NativeViews.Proofs.Host.EventKeys

/-!
Top-level names as a canonical form of the names of events. A name is canonical exactly if it has
the top-level mark already; names with one mark are told apart by what follows the mark.
-/

namespace NativeViews

theorem startsWith_iff_exists_append {name mark : String} :
    name.startsWith mark ↔ ∃ rest, name = mark ++ rest := by
  rw [String.startsWith_string_iff]
  constructor
  · rintro ⟨rest, same⟩
    refine ⟨String.ofList rest, String.toList_inj.mp ?_⟩
    rw [String.toList_append, String.toList_ofList, same]
  · rintro ⟨rest, rfl⟩
    rw [String.toList_append]
    exact List.prefix_append _ _

/-! ## The name for each mark -/

theorem topLevelName_on (rest : String) : topLevelName ("on" ++ rest) = "top" ++ rest := by
  apply String.toList_inj.mp
  simp [topLevelName, topLevelChars, onMark, topMark]

theorem topLevelName_top (rest : String) : topLevelName ("top" ++ rest) = "top" ++ rest := by
  apply String.toList_inj.mp
  simp [topLevelName, topLevelChars, onMark, topMark]

/-- Whatever a name begins with, its top-level name has the top-level mark. -/
theorem startsWith_topLevelName (name : String) : (topLevelName name).startsWith "top" := by
  apply startsWith_iff_exists_append.mpr
  refine ⟨String.ofList (stemChars name.toList), ?_⟩
  rw [topLevelName_eq, topLevelNameOf, String.ofList_append]
  rfl

/-! ## Canonical names -/

theorem topLevelName_eq_self_iff (name : String) :
    topLevelName name = name ↔ name.startsWith "top" := by
  constructor
  · intro same
    rw [← same]
    exact startsWith_topLevelName name
  · intro marked
    obtain ⟨rest, rfl⟩ := startsWith_iff_exists_append.mp marked
    exact topLevelName_top rest

theorem topLevelName_topLevelName (name : String) :
    topLevelName (topLevelName name) = topLevelName name :=
  (topLevelName_eq_self_iff (topLevelName name)).mpr (startsWith_topLevelName name)

theorem injOn_topLevelName_on : Set.InjOn topLevelName {name | name.startsWith "on"} := by
  intro first firstOn second secondOn same
  obtain ⟨rest, rfl⟩ := startsWith_iff_exists_append.mp firstOn
  obtain ⟨other, rfl⟩ := startsWith_iff_exists_append.mp secondOn
  rw [topLevelName_on, topLevelName_on] at same
  rw [(String.append_right_inj _).mp same]

theorem injOn_topLevelName_top : Set.InjOn topLevelName {name | name.startsWith "top"} := by
  intro first firstTop second secondTop same
  rwa [(topLevelName_eq_self_iff first).mpr firstTop,
    (topLevelName_eq_self_iff second).mpr secondTop] at same

/-- A name has the top-level name of exactly one name with the top-level mark: its own. -/
theorem existsUnique_top (name : String) :
    ∃! top : String, top.startsWith "top" ∧ topLevelName top = topLevelName name := by
  refine ⟨topLevelName name, ⟨startsWith_topLevelName name, topLevelName_topLevelName name⟩, ?_⟩
  rintro top ⟨marked, same⟩
  rw [← same, (topLevelName_eq_self_iff top).mpr marked]

/-- Top-level names are a canonical form. They have the top-level mark, they are their own top-level
names, and no other names are. Distinct names with one mark, be it that of listeners or the
top-level one, have distinct top-level names. Every name, that of a listener too, shares its
top-level name with exactly one name that has the top-level mark. -/
theorem topLevelName_canonical :
    (∀ name, (topLevelName name).startsWith "top") ∧
    (∀ name, topLevelName (topLevelName name) = topLevelName name) ∧
    (∀ name, topLevelName name = name ↔ name.startsWith "top") ∧
    Set.InjOn topLevelName {name | name.startsWith "on"} ∧
    Set.InjOn topLevelName {name | name.startsWith "top"} ∧
    ∀ name, ∃! top : String, top.startsWith "top" ∧ topLevelName top = topLevelName name :=
  ⟨startsWith_topLevelName, topLevelName_topLevelName, topLevelName_eq_self_iff,
    injOn_topLevelName_on, injOn_topLevelName_top, existsUnique_top⟩

/-- A letter may have two letters as its capital form; a mark that does not begin a name is none. -/
example : topLevelName "ßon" = "topSSon" := by decide

end NativeViews
