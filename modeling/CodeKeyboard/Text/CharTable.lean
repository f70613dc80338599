import CodeKeyboard.Text.Basic

/-!
# Tables of characters

The properties of characters that no formula gives are tables: a `CharTable` lists ranges of code
points, a list of `CharShift` maps runs of code points by a constant distance. Both are plain lists
in ascending order, so membership is decided by walking them.
-/

namespace CodeKeyboard.Text

/-- Ranges of code points, first and last included. -/
abbrev CharTable := List (Nat × Nat)

/-- Whether one of the ranges holds the character. -/
def CharTable.contains (table : CharTable) (c : Char) : Bool :=
  table.any fun range => range.1 ≤ c.toNat && c.toNat ≤ range.2

theorem CharTable.contains_iff {table : CharTable} {c : Char} :
    table.contains c = true ↔ ∃ r ∈ table, r.1 ≤ c.toNat ∧ c.toNat ≤ r.2 := by
  simp [CharTable.contains]

/-- A run of code points that all move by the same distance. -/
structure CharShift where
  /-- The first code point of the run. -/
  first : Nat
  /-- The last code point of the run. -/
  last : Nat
  /-- The distance from one code point of the run to the next. -/
  step : Nat
  /-- How far each code point moves. -/
  distance : Int

/-- Whether the run has the character. -/
def CharShift.covers (run : CharShift) (c : Char) : Bool :=
  run.first ≤ c.toNat && c.toNat ≤ run.last && (c.toNat - run.first) % run.step == 0

/-- The character moved by the run that has it; a character of no run stays. -/
def CharShift.apply (runs : List CharShift) (c : Char) : Char :=
  match runs.find? (·.covers c) with
  | some run => Char.ofNat (c.toNat + run.distance).toNat
  | none => c

end CodeKeyboard.Text
