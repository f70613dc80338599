/-!
# Texts

A text is the list of its characters, so that every offset and length counts code points and every
function on texts is a recursion on a list. A string literal stands for the text it spells.
-/

namespace CodeKeyboard

/-- A text: its characters in order. -/
abbrev Text := List Char

/-- A literal such as "for" may stand where a text is expected. -/
instance : Coe String Text := ⟨String.toList⟩

/-- Texts are equal when their characters are. -/
instance : LawfulBEq Text := inferInstanceAs (LawfulBEq (List Char))

namespace Text

/-- The lines of a text: what stands between its newlines, one more line than newlines. -/
def lines (s : Text) : List Text :=
  s.splitOn '\n'

/-- The lines joined by newlines. -/
def ofLines (ls : List Text) : Text :=
  List.intercalate ['\n'] ls

/-- What follows the last occurrence of `sep`, or the whole text when there is none. -/
def afterLast (sep : Char) : Text → Text
  | [] => []
  | c :: s => if sep ∈ s then afterLast sep s else if c = sep then s else c :: s

/-- The text without leading occurrences of `c`. -/
def dropLeading (c : Char) (s : Text) : Text :=
  s.dropWhile (· == c)

/-- Whether `part` occurs somewhere in the text. -/
def hasPart (part : Text) : Text → Bool
  | [] => part.isEmpty
  | c :: s => part.isPrefixOf (c :: s) || hasPart part s

/-- Whether a text comes no later than another in the order of the characters. -/
def isAtMost (s t : Text) : Bool :=
  !List.lex t s fun a b => decide (a < b)

/-- The text filled up with spaces to a width. -/
def padded (width : Nat) (s : Text) : Text :=
  s ++ List.replicate (width - s.length) ' '

/-- Without a separator the whole text is what follows. -/
theorem afterLast_of_not_mem {sep : Char} {s : Text} (h : sep ∉ s) : afterLast sep s = s := by
  cases s with
  | nil => rfl
  | cons c s =>
    rw [List.mem_cons, not_or] at h
    rw [afterLast, if_neg h.2, if_neg (Ne.symm h.1)]

/-- A separator with none behind it is the last one. -/
theorem afterLast_append_cons {sep : Char} {t : Text} (h : sep ∉ t) (s : Text) :
    afterLast sep (s ++ sep :: t) = t := by
  induction s with
  | nil => simp [afterLast, h]
  | cons c s ih => rw [List.cons_append, afterLast, if_pos (by simp), ih]

theorem dropLeading_of_head? {c : Char} {s : Text} (h : s.head? ≠ some c) :
    dropLeading c s = s := by
  cases s with
  | nil => rfl
  | cons d s =>
    refine List.dropWhile_cons_of_neg fun heq => h ?_
    rw [List.head?_cons, beq_iff_eq.1 heq]

end Text

end CodeKeyboard
