import NativeViews.Failure
import NativeViews.Host.Import

/-!
Building parts of a module while noting the imports they need. What has been noted before a
failure stays noted.
-/

namespace NativeViews

/-- The imports that a part needs, in the order in which the need arose, and the part itself, if
it could be built. -/
structure Building (α : Type) where
  needs : List Import
  outcome : Except Failure α

namespace Building

variable {α β : Type}

/-- A part that needs nothing. -/
protected def pure (part : α) : Building α := ⟨[], .ok part⟩

/-- A part built out of another. -/
protected def bind (first : Building α) (next : α → Building β) : Building β :=
  match first.outcome with
  | .error failure => ⟨first.needs, .error failure⟩
  | .ok part =>
    let rest := next part
    ⟨first.needs ++ rest.needs, rest.outcome⟩

instance : Monad Building where
  pure := Building.pure
  bind := Building.bind

/-- A part that cannot be built. -/
def fail (failure : Failure) : Building α := ⟨[], .error failure⟩

/-- Notes the need of an import. -/
def need (needed : Import) : Building Unit := ⟨[needed], .ok ()⟩

def imports (built : Building α) : Imports := .ofList built.needs

@[simp] theorem needs_pure (part : α) : (pure part : Building α).needs = [] := rfl

@[simp] theorem outcome_pure (part : α) : (pure part : Building α).outcome = .ok part := rfl

theorem bind_of_ok {first : Building α} {part : α} (built : first.outcome = .ok part)
    (next : α → Building β) :
    first >>= next = ⟨first.needs ++ (next part).needs, (next part).outcome⟩ := by
  simp [bind, Building.bind, built]

theorem bind_of_error {first : Building α} {failure : Failure}
    (failed : first.outcome = .error failure) (next : α → Building β) :
    first >>= next = ⟨first.needs, .error failure⟩ := by
  simp [bind, Building.bind, failed]

end Building

end NativeViews
