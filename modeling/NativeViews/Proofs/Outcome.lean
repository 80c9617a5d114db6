import Mathlib.Data.List.Perm.Basic

/-!
Outcomes of computations that may fail: what the success of a whole says about its steps.
-/

namespace NativeViews

/-- A step of a computation that succeeds has succeeded. -/
theorem exists_of_bind_ok {ε α β : Type} {first : Except ε α} {next : α → Except ε β}
    {result : β} (done : first >>= next = .ok result) :
    ∃ part, first = .ok part ∧ next part = .ok result := by
  cases first with
  | error failure => exact nomatch done
  | ok part => exact ⟨part, rfl, done⟩

theorem ok_bind {ε α β : Type} (part : α) (next : α → Except ε β) :
    Except.ok part >>= next = next part :=
  rfl

theorem error_bind {ε α β : Type} (failure : ε) (next : α → Except ε β) :
    Except.error failure >>= next = .error failure :=
  rfl

theorem bind_ok_iff {ε α β : Type} {first : Except ε α} {next : α → Except ε β} {result : β} :
    first >>= next = .ok result ↔ ∃ part, first = .ok part ∧ next part = .ok result := by
  constructor
  · exact exists_of_bind_ok
  · rintro ⟨part, rfl, done⟩
    exact done

theorem exists_of_map_ok {ε α β : Type} {outcome : Except ε α} {change : α → β} {result : β}
    (done : outcome.map change = .ok result) : ∃ part, outcome = .ok part ∧ change part = result := by
  cases outcome with
  | error failure => exact nomatch done
  | ok part => exact ⟨part, rfl, Except.ok.inj done⟩

/-- Outcomes that succeed alike are alike, apart from how they fail. -/
theorem toOption_congr {ε α : Type} {first second : Except ε α}
    (alike : ∀ part, first = .ok part ↔ second = .ok part) : first.toOption = second.toOption := by
  cases first with
  | ok part => rw [(alike part).mp rfl]
  | error failure =>
    cases second with
    | ok part => exact nomatch (alike part).mpr rfl
    | error other => rfl

/-- What is made of the results of a computation over a list may be made of them step by step. -/
theorem mapM_map_map {m : Type → Type} [Monad m] [LawfulMonad m] {α β γ : Type} (step : α → m β)
    (change : β → γ) (parts : List α) :
    (parts.mapM fun part => change <$> step part) = List.map change <$> parts.mapM step := by
  induction parts with
  | nil => simp
  | cons part parts ih => simp [List.mapM_cons, ih]

/-- Going through the parts of parts is going through all of them. -/
theorem mapM_flatMap {m : Type → Type} [Monad m] [LawfulMonad m] {α β γ : Type}
    (items : α → List β) (step : β → m γ) (parts : List α) :
    (parts.flatMap items).mapM step
      = List.flatten <$> parts.mapM fun part => (items part).mapM step := by
  induction parts with
  | nil => simp
  | cons part parts ih =>
    rw [List.flatMap_cons, List.mapM_append, ih, List.mapM_cons]
    simp

/-- A computation over a list succeeds exactly if it does for each part. -/
theorem mapM_ok_iff {ε α β : Type} {step : α → Except ε β} {parts : List α} {results : List β} :
    parts.mapM step = .ok results ↔
      List.Forall₂ (fun part result => step part = .ok result) parts results := by
  constructor
  · intro done
    induction parts generalizing results with
    | nil =>
      obtain rfl := Except.ok.inj done
      exact .nil
    | cons part parts ih =>
      rw [List.mapM_cons] at done
      obtain ⟨result, here, later⟩ := exists_of_bind_ok done
      obtain ⟨others, rest, same⟩ := exists_of_bind_ok later
      obtain rfl := Except.ok.inj same
      exact .cons here (ih rest)
  · intro steps
    induction steps with
    | nil => rfl
    | cons here _ ih =>
      rw [List.mapM_cons, here, ih]
      rfl

theorem exists_of_forall₂ {α β : Type} {related : α → β → Prop} {parts : List α}
    {results : List β} (pairwise : List.Forall₂ related parts results) :
    ∀ result ∈ results, ∃ part ∈ parts, related part result := by
  induction pairwise with
  | nil => simp
  | @cons part result parts results here _ ih =>
    refine List.forall_mem_cons.mpr ⟨⟨part, by simp, here⟩, fun result member => ?_⟩
    obtain ⟨source, inside, built⟩ := ih result member
    exact ⟨source, List.mem_cons_of_mem part inside, built⟩

theorem map_eq_of_forall₂ {α β γ : Type} {image : α → γ} {other : β → γ} {parts : List α}
    {results : List β}
    (pairwise : List.Forall₂ (fun part result => image part = other result) parts results) :
    parts.map image = results.map other := by
  rwa [← List.forall₂_eq_eq_eq, List.forall₂_map_left_iff, List.forall₂_map_right_iff]

/-- What a computation over a list gives comes from its members. -/
theorem exists_of_mapM_ok {ε α β : Type} {step : α → Except ε β} {parts : List α}
    {results : List β} (done : parts.mapM step = .ok results) :
    ∀ result ∈ results, ∃ part ∈ parts, step part = .ok result :=
  exists_of_forall₂ (mapM_ok_iff.mp done)

/-- A computation over a list that succeeds gives something for each member. -/
theorem exists_result_of_mapM_ok {ε α β : Type} {step : α → Except ε β} {parts : List α}
    {results : List β} (done : parts.mapM step = .ok results) :
    ∀ part ∈ parts, ∃ result ∈ results, step part = .ok result :=
  exists_of_forall₂ (mapM_ok_iff.mp done).flip

/-- The order of the parts settles the order of the results, and nothing else. -/
theorem exists_mapM_ok_of_perm {ε α β : Type} {step : α → Except ε β} {parts others : List α}
    {results : List β} (order : parts.Perm others) (done : parts.mapM step = .ok results) :
    ∃ later, others.mapM step = .ok later ∧ results.Perm later := by
  obtain ⟨later, steps, same⟩ := List.perm_comp_forall₂ order.symm (mapM_ok_iff.mp done)
  exact ⟨later, mapM_ok_iff.mpr steps, same.symm⟩

/-! ## Failures -/

/-- What a computation fails with, if it fails. -/
def failureOf? {ε α : Type} : Except ε α → Option ε
  | .error failure => some failure
  | .ok _ => none

theorem failureOf?_eq_some_iff {ε α : Type} {outcome : Except ε α} {failure : ε} :
    failureOf? outcome = some failure ↔ outcome = .error failure := by
  cases outcome <;> simp [failureOf?]

theorem failureOf?_eq_none_iff {ε α : Type} {outcome : Except ε α} :
    failureOf? outcome = none ↔ ∃ result, outcome = .ok result := by
  cases outcome <;> simp [failureOf?]

theorem exists_error_iff {ε α : Type} {outcome : Except ε α} :
    (∃ failure, outcome = .error failure) ↔ ¬ ∃ result, outcome = .ok result := by
  cases outcome <;> simp

theorem failureOf?_map {ε α β : Type} (change : α → β) (outcome : Except ε α) :
    failureOf? (outcome.map change) = failureOf? outcome := by
  cases outcome <;> rfl

/-- A step that cannot fail adds no failure. -/
theorem failureOf?_bind_pure {ε α β : Type} (outcome : Except ε α) (next : α → β) :
    failureOf? (outcome >>= fun part => pure (next part)) = failureOf? outcome := by
  cases outcome <;> rfl

/-- A computation over a list fails as its first part that fails. -/
theorem failureOf?_mapM {ε α β : Type} (step : α → Except ε β) (parts : List α) :
    failureOf? (parts.mapM step) = parts.findSome? fun part => failureOf? (step part) := by
  induction parts with
  | nil => rfl
  | cons part parts ih =>
    rw [List.mapM_cons, List.findSome?_cons]
    cases here : step part with
    | error failure => rfl
    | ok result =>
      rw [ok_bind, failureOf?_bind_pure, ih]
      rfl

theorem exists_mapM_ok_iff {ε α β : Type} {step : α → Except ε β} {parts : List α} :
    (∃ results, parts.mapM step = .ok results) ↔
      ∀ part ∈ parts, ∃ result, step part = .ok result := by
  rw [← failureOf?_eq_none_iff, failureOf?_mapM, List.findSome?_eq_none_iff]
  simp only [failureOf?_eq_none_iff]

end NativeViews
