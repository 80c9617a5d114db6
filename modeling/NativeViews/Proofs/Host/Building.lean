import NativeViews.Host.Building
import NativeViews.Proofs.Outcome

/-!
Laws of building: what comes out of a part does not depend on what it needs, and a part that is
built needs what its steps need.
-/

namespace NativeViews

namespace Building

variable {α β γ : Type}

theorem outcome_bind (first : Building α) (next : α → Building β) :
    (first >>= next).outcome = first.outcome >>= fun part => (next part).outcome := by
  cases built : first.outcome with
  | ok part => rw [bind_of_ok built]; rfl
  | error failure => rw [bind_of_error built]; rfl

theorem needs_bind_of_ok {first : Building α} {part : α} (built : first.outcome = .ok part)
    (next : α → Building β) : (first >>= next).needs = first.needs ++ (next part).needs := by
  rw [bind_of_ok built]

/-! ## Laws of the monad -/

theorem map_identity (built : Building α) : id <$> built = built := by
  obtain ⟨needs, outcome⟩ := built
  cases outcome <;> simp [Functor.map, Building.bind, Building.pure]

theorem bind_of_pure (part : α) (next : α → Building β) : pure part >>= next = next part := by
  rw [bind_of_ok (outcome_pure part), needs_pure, List.nil_append]

theorem bind_associative (first : Building α) (next : α → Building β) (last : β → Building γ) :
    first >>= next >>= last = first >>= fun part => next part >>= last := by
  cases built : first.outcome with
  | error failure =>
    have failed : (first >>= next).outcome = .error failure := by rw [bind_of_error built]
    rw [bind_of_error failed, bind_of_error built, bind_of_error built]
  | ok part =>
    cases later : (next part).outcome with
    | error failure =>
      have failed : (first >>= next).outcome = .error failure := by rw [bind_of_ok built, later]
      rw [bind_of_error failed, bind_of_ok built, bind_of_ok built, bind_of_error later]
    | ok result =>
      have both : (first >>= next).outcome = .ok result := by rw [bind_of_ok built, later]
      rw [bind_of_ok both, bind_of_ok built, bind_of_ok built, bind_of_ok later, List.append_assoc]

instance : LawfulMonad Building :=
  LawfulMonad.mk' Building map_identity bind_of_pure bind_associative

/-! ## Lists of parts -/

/-- Parts come out as they would without their needs. -/
theorem outcome_mapM (build : α → Building β) (parts : List α) :
    (parts.mapM build).outcome = parts.mapM fun part => (build part).outcome := by
  induction parts with
  | nil => rfl
  | cons part parts ih =>
    simp only [List.mapM_cons, outcome_bind, outcome_pure, ih]
    rfl

/-- Parts that are built need what each of them needs. -/
theorem needs_mapM_of_ok {build : α → Building β} {parts : List α} {results : List β}
    (built : (parts.mapM build).outcome = .ok results) :
    (parts.mapM build).needs = parts.flatMap fun part => (build part).needs := by
  induction parts generalizing results with
  | nil => rfl
  | cons part parts ih =>
    rw [List.mapM_cons, outcome_bind] at built
    obtain ⟨result, first, later⟩ := exists_of_bind_ok built
    rw [outcome_bind] at later
    obtain ⟨others, rest, _⟩ := exists_of_bind_ok later
    rw [List.mapM_cons, needs_bind_of_ok first, needs_bind_of_ok rest, ih rest, needs_pure,
      List.append_nil, List.flatMap_cons]

end Building

/-- A set of imports depends only on which imports it was made of. -/
theorem Imports.ofList_congr {first second : List Import}
    (same : ∀ needed, needed ∈ first ↔ needed ∈ second) : ofList first = ofList second := by
  have agree : first.contains = second.contains := by
    funext needed
    rw [Bool.eq_iff_iff]
    simpa using same needed
  rw [ofList, ofList, agree]

end NativeViews
