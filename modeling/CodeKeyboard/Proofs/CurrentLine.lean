import CodeKeyboard.Engine
import Mathlib.Algebra.GroupWithZero.Nat
import Mathlib.Data.List.TakeWhile

/-!
# Only the line of the cursor matters (specification §4.2)

The context of a cursor is found by looking from the cursor back to the last newline and on to the
next one. The lines of a text are found by cutting it at every newline. Both speak of the same line:
what stands before the last newline is a text of whole lines, as many as it has newlines, and they
take up all of it.

- `Context.exists_wholeLines`: a text that ends in a newline is so many whole lines, whatever
  follows them.
- `Context.extract_around`: the context at a cursor, told by what stands around it on its line.
- `Context.extract_on_line`: so it is the context of the line alone, at the cursor's column.
- `Context.acts_alike_on_line`: and what is predicted and inserted at a cursor does not depend on
  the other lines.
-/

namespace CodeKeyboard

namespace Text

theorem length_lines (text : Text) : (lines text).length = text.count '\n' + 1 := by
  induction text with
  | nil => rfl
  | cons c text ih =>
    rw [lines] at ih
    rw [lines, List.splitOn_cons_eq_if_modifyHead, List.count_cons]
    split
    · rw [List.length_cons, ih]
    · rw [List.length_modifyHead, ih, Nat.add_zero]

/-- The lines and the newlines between them take up the whole text. -/
theorem sum_length_lines (text : Text) :
    ((lines text).map (·.length + 1)).sum = text.length + 1 := by
  induction text with
  | nil => rfl
  | cons c text ih =>
    rw [lines] at ih
    rw [lines, List.splitOn_cons_eq_if_modifyHead, List.length_cons]
    split
    · rw [List.map_cons, List.sum_cons, ih, List.length_nil]
      omega
    · -- the character goes to the first line
      obtain ⟨first, rest, hlines⟩ := List.exists_cons_of_ne_nil (List.splitOn_ne_nil '\n' text)
      rw [hlines, List.map_cons, List.sum_cons] at ih
      rw [hlines, List.modifyHead_cons, List.map_cons, List.sum_cons, List.length_cons]
      omega

/-- A line is the first one of a text that goes on with a newline or not at all. -/
theorem head?_lines_append {line rest : Text} (hline : '\n' ∉ line)
    (hrest : rest.head?.all (· = '\n')) : (lines (line ++ rest)).head? = some line := by
  cases rest with
  | nil => rw [List.append_nil, lines, List.splitOn_eq_singleton hline, List.head?_cons]
  | cons c rest =>
    obtain rfl : c = '\n' := by simpa using hrest
    rw [lines, List.splitOn_append_cons_self_of_not_mem hline, List.head?_cons]

end Text

namespace Context

open Text

/-! ## Lines by their numbers -/

/-- The number of the line that a cursor is on: so many newlines stand before it. -/
def lineNumber (text : Text) (cursor : Int) : Nat :=
  (text.take (clamp text.length cursor)).count '\n'

/-- Where a line begins: after the lines before it, each with its newline. -/
def lineStart (text : Text) (number : Nat) : Nat :=
  (((lines text).take number).map (·.length + 1)).sum

/-- How far a cursor is from the beginning of its line. -/
def column (text : Text) (cursor : Int) : Nat :=
  clamp text.length cursor - lineStart text (lineNumber text cursor)

/-- What ends in a newline, or is empty, is a number of whole lines before any text. -/
theorem exists_wholeLines {front : Text} (h : front.getLast?.all (· = '\n')) :
    ∃ whole : List Text, (∀ rest, lines (front ++ rest) = whole ++ lines rest) ∧
      whole.length = front.count '\n' ∧ (whole.map (·.length + 1)).sum = front.length := by
  cases hlast : front.getLast? with
  | none =>
    obtain rfl := List.getLast?_eq_none_iff.1 hlast
    exact ⟨[], fun rest => rfl, rfl, rfl⟩
  | some c =>
    rw [hlast] at h
    obtain rfl : c = '\n' := by simpa using h
    obtain ⟨init, rfl⟩ := List.getLast?_eq_some_iff.1 hlast
    -- cutting at the last newline leaves the lines of what stands before it
    refine ⟨lines init, fun rest => ?_, ?_, ?_⟩
    · rw [List.append_assoc, lines, List.singleton_append, List.splitOn_append_cons_self]
      rfl
    · rw [length_lines, List.count_append, List.count_singleton_self]
    · rw [sum_length_lines, List.length_append, List.length_singleton]

/-! ## What stands around a cursor -/

/-- **What stands around a cursor on its line**: whole lines before, the two parts of the line
without a newline, and after them nothing or a newline. -/
structure Around (text : Text) (offset : Nat) (front rest : Text) : Prop where
  before_eq : text.take offset = front ++ lineBefore text offset
  after_eq : text.drop offset = lineAfter text offset ++ rest
  front_ends : front.getLast?.all (· = '\n')
  rest_starts : rest.head?.all (· = '\n')
  not_mem : '\n' ∉ lineBefore text offset ++ lineAfter text offset

theorem exists_around (text : Text) (offset : Nat) :
    ∃ front rest, Around text offset front rest := by
  refine ⟨((text.take offset).reverse.dropWhile (· != '\n')).reverse,
    (text.drop offset).dropWhile (· != '\n'), ?_, ?_, ?_, ?_, ?_⟩
  · rw [lineBefore, ← List.reverse_append, List.takeWhile_append_dropWhile, List.reverse_reverse]
  · rw [lineAfter, List.takeWhile_append_dropWhile]
  · -- looking back stops at a newline or at the beginning
    have hhead := List.head?_dropWhile_not (· != '\n') (text.take offset).reverse
    rw [List.getLast?_reverse]
    cases h : ((text.take offset).reverse.dropWhile (· != '\n')).head? with
    | none => rfl
    | some c => simpa [h] using hhead
  · -- looking on stops at a newline or at the end
    have hhead := List.head?_dropWhile_not (· != '\n') (text.drop offset)
    cases h : ((text.drop offset).dropWhile (· != '\n')).head? with
    | none => rfl
    | some c => simpa [h] using hhead
  · intro hmem
    rw [List.mem_append, lineBefore, lineAfter, List.mem_reverse] at hmem
    rcases hmem with hmem | hmem
    · simpa using List.all_eq_true.1 List.all_takeWhile _ hmem
    · simpa using List.all_eq_true.1 List.all_takeWhile _ hmem

namespace Around

variable {text front rest : Text} {offset : Nat}

/-- The text, cut around the line of the cursor. -/
theorem text_eq (h : Around text offset front rest) :
    text = front ++ (lineBefore text offset ++ lineAfter text offset ++ rest) := by
  calc
    text = text.take offset ++ text.drop offset := (List.take_append_drop offset text).symm
    _ = front ++ (lineBefore text offset ++ lineAfter text offset ++ rest) := by
      rw [h.before_eq, h.after_eq]
      simp only [List.append_assoc]

theorem count_take (h : Around text offset front rest) :
    (text.take offset).count '\n' = front.count '\n' := by
  have hbefore : '\n' ∉ lineBefore text offset :=
    fun hmem => h.not_mem (List.mem_append_left _ hmem)
  rw [h.before_eq, List.count_append, List.count_eq_zero.2 hbefore, Nat.add_zero]

/-- The line of the cursor stands among the lines of the text, after those before it. -/
theorem lines_at (h : Around text offset front rest) :
    (lines text)[(text.take offset).count '\n']? =
        some (lineBefore text offset ++ lineAfter text offset) ∧
      lineStart text ((text.take offset).count '\n') = front.length := by
  obtain ⟨whole, hwhole, hlength, hsum⟩ := exists_wholeLines h.front_ends
  have hlines := hwhole (lineBefore text offset ++ lineAfter text offset ++ rest)
  rw [← h.text_eq] at hlines
  rw [lineStart, h.count_take, hlines, ← hlength]
  constructor
  · rw [List.getElem?_append_right (Nat.le_refl _), Nat.sub_self, ← List.head?_eq_getElem?]
    exact head?_lines_append h.not_mem h.rest_starts
  · rw [List.take_left, hsum]

end Around

/-! ## The context of the line alone -/

theorem clamp_le (length : Nat) (cursor : Int) : clamp length cursor ≤ length :=
  Nat.min_le_right ..

theorem clamp_ofNat {length n : Nat} (h : n ≤ length) : clamp length n = n := by
  rw [clamp, Int.toNat_natCast, Nat.min_eq_left h]

/-- On a text of one line nothing of it is cut away. -/
theorem lineBefore_of_not_mem {line : Text} (h : '\n' ∉ line) (offset : Nat) :
    lineBefore line offset = line.take offset := by
  have hall : ∀ c ∈ (line.take offset).reverse, (c != '\n') = true := by
    intro c hc
    rw [bne_iff_ne]
    rintro rfl
    exact h (List.mem_of_mem_take (List.mem_reverse.1 hc))
  rw [lineBefore, List.takeWhile_eq_self_iff.2 hall, List.reverse_reverse]

theorem lineAfter_of_not_mem {line : Text} (h : '\n' ∉ line) (offset : Nat) :
    lineAfter line offset = line.drop offset := by
  refine List.takeWhile_eq_self_iff.2 fun c hc => ?_
  rw [bne_iff_ne]
  rintro rfl
  exact h (List.mem_of_mem_drop hc)

/-- The context of a cursor in a text of one line. -/
theorem extract_of_not_mem {line : Text} (h : '\n' ∉ line) (cursor : Int) :
    extract line cursor =
      ⟨lastWordOf (line.take (clamp line.length cursor)), line, line.allBlank,
        line.indentation.length⟩ := by
  simp only [extract, lineBefore_of_not_mem h, lineAfter_of_not_mem h, List.take_append_drop]

/-- The line of a cursor and its column, among the lines of the text. -/
theorem lines_at_cursor (text : Text) (cursor : Int) :
    (lines text)[lineNumber text cursor]? = some (extract text cursor).line ∧
      lineStart text (lineNumber text cursor) + column text cursor = clamp text.length cursor ∧
      column text cursor = (lineBefore text (clamp text.length cursor)).length := by
  obtain ⟨front, rest, h⟩ := exists_around text (clamp text.length cursor)
  obtain ⟨hline, hstart⟩ := h.lines_at
  have hoffset := congrArg List.length h.before_eq
  rw [List.length_take_of_le (clamp_le _ _), List.length_append] at hoffset
  have hcolumn : column text cursor = (lineBefore text (clamp text.length cursor)).length := by
    rw [column, lineNumber, hstart]
    omega
  refine ⟨hline, ?_, hcolumn⟩
  rw [hcolumn, lineNumber, hstart]
  exact hoffset.symm

theorem not_mem_line (text : Text) (cursor : Int) : '\n' ∉ (extract text cursor).line := by
  obtain ⟨front, rest, h⟩ := exists_around text (clamp text.length cursor)
  exact h.not_mem

/-- **The context at a cursor is that of its line at its column.** -/
theorem extract_on_line (text : Text) (cursor : Int) :
    extract text cursor = extract (extract text cursor).line (column text cursor) := by
  obtain ⟨-, -, hcolumn⟩ := lines_at_cursor text cursor
  -- the line alone has no newline to stop at, so only the column has to fit
  rw [extract_of_not_mem (not_mem_line text cursor), hcolumn]
  have hle : (lineBefore text (clamp text.length cursor)).length ≤
      (extract text cursor).line.length := by
    simp only [extract, List.length_append]
    omega
  rw [clamp_ofNat hle]
  simp only [extract, List.take_left]

/-! ## What is predicted and inserted -/

/-- Two places in texts at which every engine predicts alike and every button inserts alike. -/
structure ActAlike (text : Text) (cursor : Int) (text' : Text) (cursor' : Int) : Prop where
  predict : ∀ (engine : Engine) (language : Language) (limit : Int),
    engine.predict language text (some cursor) limit =
      engine.predict language text' (some cursor') limit
  rank : ∀ (language : Language) (keyboard : Keyboard) (limit : Int),
    Prediction.rank language (extract text cursor) keyboard.pool limit =
      Prediction.rank language (extract text' cursor') keyboard.pool limit
  expand : ∀ (language : Language) (button : Button),
    Expansion.expand language button (extract text cursor) =
      Expansion.expand language button (extract text' cursor')

theorem ActAlike.of_extract_eq {text text' : Text} {cursor cursor' : Int}
    (h : extract text cursor = extract text' cursor') : ActAlike text cursor text' cursor' where
  predict engine language limit := by simp only [Engine.predict, Option.getD_some, h]
  rank language keyboard limit := by rw [h]
  expand language button := by rw [h]

/-- **Only the line of the cursor matters.** It is the line whose number is the number of newlines
before the cursor, and the column is what is left of the offset after the lines before it. The
context, the predictions and the insertions are those of that line alone at that column, so they are
the same in any other text with the same line and column. -/
theorem acts_alike_on_line (text : Text) (cursor : Int) :
    ∃ line, (lines text)[lineNumber text cursor]? = some line ∧
      lineStart text (lineNumber text cursor) + column text cursor = clamp text.length cursor ∧
      column text cursor ≤ line.length ∧
      (extract text cursor).line = line ∧
      extract text cursor = extract line (column text cursor) ∧
      ActAlike text cursor line (column text cursor) ∧
      ∀ text' cursor', (lines text')[lineNumber text' cursor']? = some line →
        column text' cursor' = column text cursor → ActAlike text cursor text' cursor' := by
  obtain ⟨hline, hoffset, hcolumn⟩ := lines_at_cursor text cursor
  have halone := extract_on_line text cursor
  refine ⟨(extract text cursor).line, hline, hoffset, ?_, rfl, halone, .of_extract_eq halone, ?_⟩
  · rw [hcolumn]
    simp only [extract, List.length_append]
    omega
  · intro text' cursor' hline' hcolumn'
    obtain ⟨hat, -, -⟩ := lines_at_cursor text' cursor'
    have hsame : (extract text' cursor').line = (extract text cursor).line :=
      Option.some.inj (hat.symm.trans hline')
    refine .of_extract_eq ?_
    rw [halone, extract_on_line text' cursor', hsame, hcolumn']

end Context

end CodeKeyboard
