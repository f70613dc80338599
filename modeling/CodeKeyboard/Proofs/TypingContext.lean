import CodeKeyboard.Proofs.CurrentLine
import CodeKeyboard.Proofs.Indentation
import Mathlib.Order.Bounds.Basic

/-!
# What a context says about its line (specification §4.2)

Three things are read off the current line: the last word before the cursor, how far the line is
indented, and whether it is blank. Each has a meaning of its own, which says nothing of how it is
found. A word is a run without separators that a separator, or the beginning of the line, stands
before and only separators stand after; the indentation is the longest beginning that is blank; and
a line is blank when its indentation is all there is.

- `Context.EndsInWord`: the word that a text ends in, by what stands around it.
- `Context.lastWordOf_eq_iff`: every text ends in one word, and that word is the one that is found.
- `Context.isGreatest_indentation`: the longest blank beginning.
- `Context.describes_line`: all three for every text and every cursor.
-/

namespace CodeKeyboard

namespace Context

open Text

/-! ## The last word -/

/-- **The word that a text ends in**, by what stands around it. -/
structure EndsInWord (text front word rest : Text) : Prop where
  /-- The text in its three parts. -/
  text_eq : text = front ++ word ++ rest
  /-- After the word only separators stand. -/
  rest_separates : ∀ c ∈ rest, isSeparator c = true
  /-- In it there is none. -/
  word_whole : ∀ c ∈ word, isSeparator c = false
  /-- Before it one stands, or nothing. -/
  front_ends : front.getLast?.all isSeparator = true
  /-- There is no word only where there is nothing but separators. -/
  word_nil : word = [] → ∀ c ∈ text, isSeparator c = true

variable {text front word rest line : Text}

/-- No word is found only where there is nothing but separators. -/
theorem lastWordOf_eq_nil_iff : lastWordOf text = [] ↔ ∀ c ∈ text, isSeparator c = true := by
  have hall : text.reverse.dropWhile isSeparator = [] ↔ ∀ c ∈ text, isSeparator c = true := by
    simp [List.dropWhile_eq_nil_iff]
  rw [lastWordOf, List.reverse_eq_nil_iff, ← hall]
  cases hkept : text.reverse.dropWhile isSeparator with
  | nil => simp
  | cons c kept =>
    -- what is left begins with a character of the word
    have hhead := List.head?_dropWhile_not isSeparator text.reverse
    rw [hkept] at hhead
    have hc : isSeparator c = false := by simpa using hhead
    simp [hc]

/-- Every text ends in the word that is found. -/
theorem endsInWord_lastWordOf (text : Text) :
    ∃ front rest, EndsInWord text front (lastWordOf text) rest := by
  obtain ⟨kept, hkept⟩ : ∃ kept, text.reverse.dropWhile isSeparator = kept := ⟨_, rfl⟩
  refine ⟨(kept.dropWhile (!isSeparator ·)).reverse, (text.reverse.takeWhile isSeparator).reverse,
    ?_, ?_, ?_, ?_, lastWordOf_eq_nil_iff.1⟩
  · rw [lastWordOf, hkept, ← List.reverse_append, List.takeWhile_append_dropWhile,
      ← List.reverse_append, ← hkept, List.takeWhile_append_dropWhile, List.reverse_reverse]
  · intro c hc
    exact List.all_eq_true.1 List.all_takeWhile c (List.mem_reverse.1 hc)
  · intro c hc
    simpa using List.all_eq_true.1 List.all_takeWhile c (List.mem_reverse.1 hc)
  · -- looking back from the beginning of the word there is a separator or nothing
    rw [List.getLast?_reverse]
    have hhead := List.head?_dropWhile_not (!isSeparator ·) kept
    cases h : (kept.dropWhile (!isSeparator ·)).head? with
    | none => rfl
    | some c => simpa [h] using hhead

/-- And it ends in no other. -/
theorem EndsInWord.lastWordOf_eq (h : EndsInWord text front word rest) :
    lastWordOf text = word := by
  by_cases hnil : word = []
  · rw [hnil, lastWordOf_eq_nil_iff]
    exact h.word_nil hnil
  have hrest : ∀ c ∈ rest.reverse, isSeparator c = true :=
    fun c hc => h.rest_separates c (List.mem_reverse.1 hc)
  have hword : ∀ c ∈ word.reverse, isSeparator c = false :=
    fun c hc => h.word_whole c (List.mem_reverse.1 hc)
  -- read backwards: the separators at the end, the word, and a separator or nothing before it
  have hstart : (word.reverse ++ front.reverse).dropWhile isSeparator =
      word.reverse ++ front.reverse := by
    obtain ⟨c, s, hcons⟩ := List.exists_cons_of_ne_nil (mt List.reverse_eq_nil_iff.1 hnil)
    rw [hcons, List.cons_append, List.dropWhile_cons_of_neg]
    rw [hword c (hcons ▸ List.mem_cons_self)]
    exact Bool.false_ne_true
  have hend : front.reverse.takeWhile (!isSeparator ·) = [] := by
    have hfront := h.front_ends
    rw [← List.head?_reverse] at hfront
    cases hcons : front.reverse with
    | nil => rfl
    | cons c s =>
      rw [hcons, List.head?_cons, Option.all_some] at hfront
      rw [List.takeWhile_cons_of_neg]
      simp [hfront]
  rw [lastWordOf, h.text_eq, List.reverse_append, List.reverse_append,
    List.dropWhile_append_of_pos hrest, hstart, List.takeWhile_append_of_pos (by simpa using hword),
    hend, List.append_nil, List.reverse_reverse]

/-- So the word that is found is told by what stands around it. -/
theorem lastWordOf_eq_iff :
    lastWordOf text = word ↔ ∃ front rest, EndsInWord text front word rest := by
  constructor
  · rintro rfl
    exact endsInWord_lastWordOf text
  · rintro ⟨front, rest, h⟩
    exact h.lastWordOf_eq

/-! ## The indentation -/

theorem allBlank_indentation (line : Text) : allBlank (indentation line) = true :=
  List.all_takeWhile

/-- The indentation is the longest beginning of a line that is blank. -/
theorem isGreatest_indentation (line : Text) :
    IsGreatest {n | ∃ indent, indent <+: line ∧ allBlank indent = true ∧ indent.length = n}
      (indentation line).length := by
  constructor
  · exact ⟨indentation line, List.takeWhile_prefix _, allBlank_indentation line, rfl⟩
  · rintro n ⟨indent, ⟨rest, rfl⟩, hblank, rfl⟩
    -- taking blanks does not stop before the end of a blank beginning
    rw [indentation, List.takeWhile_append_of_pos (List.all_eq_true.1 hblank), List.length_append]
    exact Nat.le_add_right _ _

theorem allBlank_iff_length_indentation :
    allBlank line = true ↔ (indentation line).length = line.length := by
  constructor
  · intro h
    rw [indentation, List.takeWhile_eq_self_iff.2 (List.all_eq_true.1 h)]
  · intro h
    rw [← (List.takeWhile_prefix isBlank).eq_of_length h]
    exact allBlank_indentation line

/-! ## The context of a cursor -/

/-- **What the context of a cursor says about its line**, for every text and every cursor. The last
word is the one that ends what stands on the line before the cursor; the width is that of the
longest blank beginning; the line is blank just if that is all of it, and then there is no word. -/
theorem describes_line (text : Text) (cursor : Int) :
    ∃ line, (lines text)[lineNumber text cursor]? = some line ∧
      lineStart text (lineNumber text cursor) + column text cursor = clamp text.length cursor ∧
      (extract text cursor).line = line ∧
      (∀ word, (extract text cursor).lastWord = word ↔
        ∃ front rest, EndsInWord (line.take (column text cursor)) front word rest) ∧
      (∃ width : Nat, (extract text cursor).indentWidth = width ∧
        IsGreatest {n | ∃ indent, indent <+: line ∧ allBlank indent = true ∧ indent.length = n}
          width) ∧
      ((extract text cursor).onBlankLine = true ↔
        (extract text cursor).indentWidth = line.length) ∧
      ((extract text cursor).onBlankLine = true → (extract text cursor).lastWord = []) := by
  obtain ⟨hline, hoffset, hcolumn⟩ := lines_at_cursor text cursor
  have hbefore : (extract text cursor).line.take (column text cursor) =
      lineBefore text (clamp text.length cursor) := by
    rw [hcolumn]
    exact List.take_left
  refine ⟨(extract text cursor).line, hline, hoffset, rfl, ?_, ?_, ?_, lastWord_of_allBlank⟩
  · intro word
    rw [hbefore]
    exact lastWordOf_eq_iff
  · exact ⟨_, rfl, isGreatest_indentation _⟩
  · rw [show (extract text cursor).onBlankLine = allBlank (extract text cursor).line from rfl,
      allBlank_iff_length_indentation]
    exact Int.ofNat_inj.symm

/-- At the end of the second line the last word is `bar`; the blank line after it has none. -/
theorem describes_line_after_comma :
    (extract "x\n    f(bar, \n  \ny" 13).lastWord = "bar" ∧
      (extract "x\n    f(bar, \n  \ny" 15).onBlankLine = true ∧
      (extract "x\n    f(bar, \n  \ny" 15).lastWord = [] := by
  obtain ⟨line, hline, -, -, hword, -⟩ := describes_line "x\n    f(bar, \n  \ny" 13
  obtain ⟨blank, -, -, -, -, -, -, hblank⟩ := describes_line "x\n    f(bar, \n  \ny" 15
  have hnew : (extract "x\n    f(bar, \n  \ny" 15).onBlankLine = true := by decide
  obtain rfl : "    f(bar, ".toList = line := Option.some.inj hline
  refine ⟨(hword "bar").2 ⟨"    f(", ", ", ?_, ?_, ?_, ?_, ?_⟩, hnew, hblank hnew⟩
  · decide
  · exact List.all_eq_true.1 (by decide)
  · have hwhole : "bar".toList.all (!isSeparator ·) = true := by decide
    simpa using List.all_eq_true.1 hwhole
  · decide
  · exact fun h => nomatch h

end Context

end CodeKeyboard
