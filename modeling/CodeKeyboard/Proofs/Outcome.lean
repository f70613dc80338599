import Mathlib.Data.List.Forall2

/-!
# Outcomes

What may fail gives an outcome: a value, or the reason why there is none. These lemmas take an
outcome apart that was put together from others: it is a value exactly when all of its parts are.
-/

namespace CodeKeyboard

namespace Outcome

variable {ε α β : Type}

/-- One step after another succeeds when both do. -/
theorem bind_eq_ok_iff {x : Except ε α} {next : α → Except ε β} {b : β} :
    x >>= next = .ok b ↔ ∃ a, x = .ok a ∧ next a = .ok b := by
  constructor
  · intro h
    cases x with
    | error cause => cases h
    | ok a => exact ⟨a, rfl, h⟩
  · rintro ⟨a, rfl, h⟩
    exact h

/-- It fails where the first step does, or else the next one. -/
theorem bind_eq_error_iff {x : Except ε α} {next : α → Except ε β} {cause : ε} :
    x >>= next = .error cause ↔ x = .error cause ∨ ∃ a, x = .ok a ∧ next a = .error cause := by
  constructor
  · intro h
    cases x with
    | error other => exact .inl (congrArg _ (Except.error.inj h))
    | ok a => exact .inr ⟨a, rfl, h⟩
  · rintro (rfl | ⟨a, rfl, h⟩)
    · rfl
    · exact h

theorem map_eq_ok_iff {x : Except ε α} {f : α → β} {b : β} :
    x.map f = .ok b ↔ ∃ a, x = .ok a ∧ f a = b := by
  constructor
  · intro h
    cases x with
    | error cause => cases h
    | ok a => exact ⟨a, rfl, Except.ok.inj h⟩
  · rintro ⟨a, rfl, rfl⟩
    rfl

theorem map_eq_error_iff {x : Except ε α} {f : α → β} {cause : ε} :
    x.map f = .error cause ↔ x = .error cause := by
  cases x with
  | error other => rw [Except.map, Except.error.injEq, Except.error.injEq]
  | ok a => exact ⟨(nomatch ·), (nomatch ·)⟩

/-- A step for each item of a list succeeds when all of them do. -/
theorem mapM_eq_ok_iff {step : α → Except ε β} {xs : List α} {ys : List β} :
    xs.mapM step = .ok ys ↔ List.Forall₂ (fun x y => step x = .ok y) xs ys := by
  induction xs generalizing ys with
  | nil =>
    rw [List.mapM_nil, List.forall₂_nil_left_iff]
    exact ⟨fun h => (Except.ok.inj h).symm, fun h => congrArg Except.ok h.symm⟩
  | cons x xs ih =>
    rw [List.mapM_cons, bind_eq_ok_iff, List.forall₂_cons_left_iff]
    constructor
    · rintro ⟨y, hy, hrest⟩
      obtain ⟨rest, hrest, h⟩ := bind_eq_ok_iff.1 hrest
      exact ⟨y, rest, hy, ih.1 hrest, (Except.ok.inj h).symm⟩
    · rintro ⟨y, rest, hy, hrest, rfl⟩
      exact ⟨y, hy, bind_eq_ok_iff.2 ⟨rest, ih.2 hrest, rfl⟩⟩

/-- Reading every written item succeeds if reading one does. -/
theorem mapM_map_eq_ok {read : β → Except ε α} {write : α → β}
    (h : ∀ x, read (write x) = .ok x) (xs : List α) : (xs.map write).mapM read = .ok xs := by
  rw [mapM_eq_ok_iff, List.forall₂_map_left_iff]
  exact List.forall₂_same.2 fun x _ => h x

/-- It fails as one of them does. -/
theorem exists_of_mapM_eq_error {step : α → Except ε β} {xs : List α} {cause : ε}
    (h : xs.mapM step = .error cause) : ∃ x ∈ xs, step x = .error cause := by
  induction xs with
  | nil =>
    rw [List.mapM_nil] at h
    cases h
  | cons x xs ih =>
    rw [List.mapM_cons] at h
    obtain hx | ⟨y, -, hrest⟩ := bind_eq_error_iff.1 h
    · exact ⟨x, List.mem_cons_self, hx⟩
    · obtain hxs | ⟨ys, -, hpure⟩ := bind_eq_error_iff.1 hrest
      · obtain ⟨item, hitem, hfails⟩ := ih hxs
        exact ⟨item, List.mem_cons_of_mem x hitem, hfails⟩
      · cases hpure

/-- Whether something fails for a certain reason can be seen. -/
instance decidableEqError [DecidableEq ε] (x : Except ε α) (cause : ε) :
    Decidable (x = .error cause) :=
  match x with
  | .error other => decidable_of_iff (other = cause) ⟨congrArg _, Except.error.inj⟩
  | .ok _ => isFalse fun h => nomatch h

end Outcome

end CodeKeyboard
