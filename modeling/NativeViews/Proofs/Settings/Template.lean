import NativeViews.Proofs.Settings.Substitution
import NativeViews.Settings.File

/-!
Settings that hold no references, as those of a new settings file: they are what they say in every
environment.
-/

namespace NativeViews

variable {chars : List Char} {text : String} {settings : Settings}

theorem pieces_of_plain (plain : '$' ∉ chars) : pieces chars = chars.map .char := by
  apply pieces_of_absent
  rintro position reference ⟨_, rest, same⟩
  have sign : '$' ∈ chars.drop position := by
    rw [← same, Reference.written_append]
    exact List.mem_cons_self
  exact plain (List.mem_of_mem_drop sign)

/-- A text without references stands for itself. -/
theorem substitute_of_plain (plain : '$' ∉ text.toList) (environment : Environment) :
    substitute environment text = .ok text := by
  rw [substitute, pieces_of_plain plain, mapM_resolve_char, Except.map, flatten_singletons,
    String.ofList_toList]

namespace Settings

/-- Settings without references are what they say. -/
theorem resolve_of_plain (plain : ∀ text ∈ settings.referring, '$' ∉ text.toList)
    (environment : Environment) : settings.resolve environment = .ok settings := by
  have each {given : Option String} (member : ∀ text ∈ given, '$' ∉ text.toList) :
      given.mapM (substitute environment) = .ok given := by
    cases given with
    | none => rfl
    | some text =>
      rw [Option.mapM_some, substitute_of_plain (member text rfl)]
      rfl
  have output := substitute_of_plain (plain settings.outputPath (by simp [referring])) environment
  have schema : settings.schemaPath.mapM _ = _ :=
    each fun text given => plain text (by simp [referring, Option.mem_def.mp given])
  have library : settings.libraryName.mapM _ = _ :=
    each fun text given => plain text (by simp [referring, Option.mem_def.mp given])
  rw [resolve, output, ok_bind, schema, ok_bind, library, ok_bind]
  rfl

theorem parse?_template : (Toml.parse? template).bind ofToml? = some {} := by
  -- The characters are taken line by line, since those of one long text are slow to evaluate.
  obtain ⟨text, same⟩ : ∃ text, text = template := ⟨_, rfl⟩
  obtain ⟨chars, inside⟩ : ∃ chars, chars = text.toList := ⟨_, rfl⟩
  rw [← same]
  unfold Toml.parse?
  rw [← inside]
  rw [same] at inside
  unfold template at inside
  simp only [String.toList_append] at inside
  subst inside
  decide +kernel

/-- A new settings file decides nothing, whatever variables are set. -/
theorem ofText_template [Libraries] : ofText template = .ok {} := by
  rw [ofText, parse?_template]

end Settings

end NativeViews
