import CodeKeyboard.Offset

/-!
# Places of a list

An element of a list stands at a place, with something before it and something behind it. An edit
is best seen on a list that is taken apart so: what is before and behind stays, whatever is done to
the element. An offset names a place, and a stretch between two places is put together of shorter
ones.

- `Offset.index?_eq_some_iff`: which place an offset names.
- `Offset.exists_split_at`: what stands around a place; `Offset.eraseIdx_length_append`,
  `Offset.modify_length_append`, `Offset.getElem?_around`: what an edit there does to it.
- `Offset.placeWithout`: where an element is found when another one is taken out.
- `Offset.extract_eq_cons`, `Offset.extract_append_extract`: how stretches are put together.
-/

namespace CodeKeyboard

namespace Offset

/-! ## The place that an offset names -/

section Naming

variable {length place : Nat} {offset : Int}

/-- An offset names a place of a list: it counts the places before it, or, as a negative number,
those from it on. -/
def Names (length : Nat) (offset : Int) (place : Nat) : Prop :=
  place < length ∧ (offset = place ∨ offset = (place : Int) - length)

theorem index?_eq_some_iff : index? length offset = some place ↔ Names length offset place := by
  unfold index? Names
  dsimp only
  split <;> simp only [Bool.and_eq_true, decide_eq_true_eq, Option.ite_none_right_eq_some,
    Option.some.injEq] <;> omega

end Naming

/-! ## What stands around a place -/

section Around

variable {α : Type} {before : List α} {place : Nat}

/-- A place of a list has something before it, at it and behind it. -/
theorem exists_split_at {xs : List α} (h : place < xs.length) :
    ∃ before x after, xs = before ++ x :: after ∧ before.length = place := by
  refine ⟨xs.take place, xs[place], xs.drop (place + 1), ?_, ?_⟩
  · rw [List.getElem_cons_drop, List.take_append_drop]
  · rw [List.length_take, Nat.min_eq_left (Nat.le_of_lt h)]

theorem getElem?_length_append (before : List α) (x : α) (after : List α) :
    (before ++ x :: after)[before.length]? = some x := by
  rw [List.getElem?_append_right (Nat.le_refl _), Nat.sub_self, List.getElem?_cons_zero]

theorem eraseIdx_length_append (before : List α) (x : α) (after : List α) :
    (before ++ x :: after).eraseIdx before.length = before ++ after := by
  rw [List.eraseIdx_append_of_length_le (Nat.le_refl _), Nat.sub_self, List.eraseIdx_cons_zero]

theorem modify_length_append (before : List α) (x : α) (after : List α) (f : α → α) :
    (before ++ x :: after).modify before.length f = before ++ f x :: after := by
  induction before with
  | nil => rfl
  | cons y before ih => exact congrArg (y :: ·) ih

/-- Another element at a place leaves what stands at the other places. -/
theorem getElem?_around (h : place ≠ before.length) (x y : α) (after : List α) :
    (before ++ x :: after)[place]? = (before ++ y :: after)[place]? := by
  rw [List.getElem?_append, List.getElem?_append]
  split
  · rfl
  · rw [List.getElem?_cons, List.getElem?_cons, if_neg (by omega), if_neg (by omega)]

end Around

/-! ## Places when an element is taken out -/

section Taken

variable {place later placeNow laterNow : Nat}

/-- Where what stands at a place of a list is found when the element at another is taken out. -/
def placeWithout (gone : Option Nat) (place : Nat) : Option Nat :=
  match gone with
  | none => some place
  | some gone =>
    if place < gone then some place else if place = gone then none else some (place - 1)

/-- What is not taken out is found where it is said to be. -/
theorem getElem?_eraseIdx_of_placeWithout {α : Type} {gone : Nat} (xs : List α)
    (h : placeWithout (some gone) place = some placeNow) :
    (xs.eraseIdx gone)[placeNow]? = xs[place]? := by
  rw [List.getElem?_eraseIdx]
  unfold placeWithout at h
  dsimp only at h
  split at h
  · next hlt =>
    cases h
    rw [if_pos hlt]
  · split at h
    · cases h
    · next hle hne =>
      cases h
      rw [if_neg (by omega), Nat.sub_add_cancel (by omega)]

theorem getElem?_append_of_placeWithout {α : Type} (before : List α) (x : α) (after : List α)
    (h : placeWithout (some before.length) place = some placeNow) :
    (before ++ after)[placeNow]? = (before ++ x :: after)[place]? := by
  rw [← eraseIdx_length_append before x after]
  exact getElem?_eraseIdx_of_placeWithout _ h

/-- What stands before something else still does when neither is taken out. -/
theorem placeWithout_lt {gone : Option Nat} (hlt : place < later)
    (hplace : placeWithout gone place = some placeNow)
    (hlater : placeWithout gone later = some laterNow) : placeNow < laterNow := by
  unfold placeWithout at hplace hlater
  cases gone with
  | none =>
    cases hplace
    cases hlater
    exact hlt
  | some gone =>
    dsimp only at hplace hlater
    split at hplace <;> split at hlater <;> grind

end Taken

/-! ## The stretch between two places -/

section Stretches

variable {α : Type} {xs rest : List α} {x : α} {start place stop : Nat}

theorem exists_drop_eq_cons (h : place < xs.length) :
    ∃ x, xs[place]? = some x ∧ xs.drop place = x :: xs.drop (place + 1) :=
  ⟨xs[place], List.getElem?_eq_getElem h, List.drop_eq_getElem_cons h⟩

theorem drop_succ_eq (h : xs.drop place = x :: rest) : xs.drop (place + 1) = rest := by
  rw [← List.drop_drop, h]
  rfl

/-- A stretch that is not empty begins with what stands at its first place. -/
theorem extract_eq_cons (hplace : xs.drop place = x :: xs.drop (place + 1)) (hstop : place < stop) :
    xs.extract place stop = x :: xs.extract (place + 1) stop := by
  obtain ⟨n, rfl⟩ : ∃ n, stop = place + (n + 1) := ⟨stop - place - 1, by omega⟩
  have hlength : place + (n + 1) - place = n + 1 := by omega
  have hlength' : place + (n + 1) - (place + 1) = n := by omega
  rw [List.extract, List.extract, hlength, hlength', hplace, List.take_succ_cons]

theorem extract_append_extract (hstart : start ≤ place) (hstop : place ≤ stop) :
    xs.extract start place ++ xs.extract place stop = xs.extract start stop := by
  have hlength : stop - start = (place - start) + (stop - place) := by omega
  have hplace : start + (place - start) = place := by omega
  rw [List.extract, List.extract, List.extract, hlength, List.take_add, List.drop_drop, hplace]

end Stretches

end Offset

end CodeKeyboard
