import CodeKeyboard.Text.Basic

/-!
# Offsets from either end

An offset into a list may be negative: it then counts from the end. As a cut an offset outside the
list stands for the nearer end; as an index it names nothing there.

Places are addressed by signed numbers of 64 bits. A cut may lie anywhere, but an index that is no
such number is told apart from one that merely lies outside the list, and so is a width.
-/

namespace CodeKeyboard

namespace Offset

/-- The first number that is too great for an address. -/
def addressBound : Int := Nat.pow 2 63

/-- Whether an offset is a signed number of 64 bits. -/
def isAddress (offset : Int) : Bool :=
  -addressBound ≤ offset && offset < addressBound

/-- What is said about an offset that is no address. -/
def noAddressMessage : Text :=
  "cannot fit 'int' into an index-sized integer"

/-- What is said about an offset outside a list; `use` says what it is to name. -/
def outsideMessage (use : Text) : Text :=
  use ++ " index out of range".toList

/-- What is said about an offset that names nothing. -/
def missingMessage (use : Text) (offset : Int) : Text :=
  if isAddress offset then outsideMessage use else noAddressMessage

/-- The place of a cut in a list of the given length. -/
def cut (length : Nat) (offset : Int) : Nat :=
  if offset < 0 then (offset + length).toNat else min offset.toNat length

/-- The index that an offset names in a list of the given length; nothing outside the list. -/
def index? (length : Nat) (offset : Int) : Option Nat :=
  let place := if offset < 0 then offset + length else offset
  if 0 ≤ place && place < length then some place.toNat else none

/-- What stands before a cut. -/
def before (xs : List α) (offset : Int) : List α :=
  xs.take (cut xs.length offset)

/-- What stands after a cut. -/
def after (xs : List α) (offset : Int) : List α :=
  xs.drop (cut xs.length offset)

/-- The element that an offset names. -/
def get? (xs : List α) (offset : Int) : Option α :=
  (index? xs.length offset).bind (xs[·]?)

@[simp] theorem before_append_after (xs : List α) (offset : Int) :
    before xs offset ++ after xs offset = xs :=
  List.take_append_drop ..

@[simp] theorem cut_ofNat {length n : Nat} (h : n ≤ length) : cut length n = n := by
  unfold cut
  split <;> omega

theorem cut_eq_min (length n : Nat) : cut length n = min n length := by
  unfold cut
  split <;> omega

theorem index?_ofNat (length n : Nat) : index? length n = if n < length then some n else none := by
  have hn : ¬ (n : Int) < 0 := by omega
  simp [index?, hn]

@[simp] theorem before_ofNat (xs : List α) (n : Nat) : before xs n = xs.take n := by
  rw [before, cut_eq_min, ← List.take_eq_take_min]

/-- Nothing stands before a cut that does not stand in the list, and in the same order. -/
theorem before_sublist (xs : List α) (offset : Int) : (before xs offset).Sublist xs :=
  List.take_sublist ..

/-- No more stands before a cut than it counts from the start. -/
theorem length_before_le (xs : List α) {offset : Int} (h : 0 ≤ offset) :
    ((before xs offset).length : Int) ≤ offset := by
  obtain ⟨n, rfl⟩ := Int.eq_ofNat_of_zero_le h
  rw [before_ofNat, List.length_take]
  omega

/-- A list that is no longer than a cut counts stands before it as a whole. -/
theorem before_of_length_le {xs : List α} {offset : Int} (h : (xs.length : Int) ≤ offset) :
    before xs offset = xs := by
  obtain ⟨n, rfl⟩ := Int.eq_ofNat_of_zero_le (Int.le_trans (Int.natCast_nonneg _) h)
  rw [before_ofNat, List.take_of_length_le (Int.ofNat_le.1 h)]

@[simp] theorem after_ofNat (xs : List α) (n : Nat) : after xs n = xs.drop n := by
  rw [after, cut_eq_min]
  by_cases h : n ≤ xs.length
  · rw [Nat.min_eq_left h]
  · rw [Nat.min_eq_right (by omega), List.drop_length, List.drop_of_length_le (by omega)]

@[simp] theorem get?_ofNat (xs : List α) (n : Nat) : get? xs n = xs[n]? := by
  rw [get?, index?_ofNat]
  split
  · rfl
  · next h => rw [List.getElem?_eq_none (by omega)]; rfl

theorem index?_lt {length : Nat} {offset : Int} {i : Nat} (h : index? length offset = some i) :
    i < length := by
  unfold index? at h
  split at h <;> simp only [Bool.and_eq_true, decide_eq_true_eq, Option.ite_none_right_eq_some,
    Option.some.injEq] at h <;> omega

end Offset

end CodeKeyboard
