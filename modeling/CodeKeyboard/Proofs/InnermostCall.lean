import CodeKeyboard.Proofs.ClosingParenthesis
import CodeKeyboard.Proofs.Indentation

/-!
# The innermost call of a line

A call in progress is found by scanning the line for the last parenthesis that stays open, and then
by looking back from it for a name. Both are told here by what they leave: the line in its parts.

What follows the parenthesis is scanned in the course of the whole line, with other brackets open
before it. Scanned on its own it opens no more and closes no fewer of its own brackets, so that its
stack stays what stands on top of the other one. A parenthesis that stayed open in it would be open
in the line as well, and further in.

- `Bracket.EndsInCallee`: the name that a text ends in, as the longest end that is one.
- `Bracket.endsInCallee_calleeOf`: every text ends in one name, and looking back finds it.
- `Bracket.isPrefix_openFrom`: what a text leaves open on its own lies on top of what it leaves open
  after other text. `Bracket.exists_mem_unclosed_after` says so of the rest of a line.
- `Bracket.openCall_splits_line`: the line in its parts, and when there is no call in it.
-/

namespace CodeKeyboard

namespace Bracket

open Text

variable {line before callee blanks arguments text name s : Text} {place : Nat} {b : Bracket}

/-! ## The name at the end of a text -/

/-- The name of something called. -/
def IsCallee : Text → Prop
  | [] => False
  | c :: s => startsCallee c = true ∧ ∀ d ∈ s, continuesCallee d = true

/-- **The name that a text ends in**: the longest end of it that is a name, or nothing. -/
structure EndsInCallee (text name : Text) : Prop where
  /-- The text ends in it. -/
  isSuffix : name <:+ text
  /-- It is a name unless it is nothing. -/
  isCallee : name ≠ [] → IsCallee name
  /-- Any name that the text ends in is an end of it. -/
  longest : ∀ other, IsCallee other → other <:+ text → other <:+ name

theorem EndsInCallee.isSuffix_of {other : Text} (h : EndsInCallee text name)
    (hother : EndsInCallee text other) : other <:+ name := by
  by_cases hnil : other = []
  · rw [hnil]
    exact List.nil_suffix
  · exact h.longest other (hother.isCallee hnil) hother.isSuffix

/-- A text ends in one name only. -/
theorem EndsInCallee.unique {other : Text} (h : EndsInCallee text name)
    (hother : EndsInCallee text other) : name = other := by
  have hle := h.isSuffix_of hother
  have hge := hother.isSuffix_of h
  exact hge.eq_of_length (Nat.le_antisymm hge.length_le hle.length_le)

/-- A letter that may begin a name is an ASCII one. -/
theorem ascii_of_isAlpha {c : Char} (h : c.isAlpha = true) : c.toNat < 128 := by
  have hrange : (decide (c.val ≥ 'A'.val ∧ c.val ≤ 'Z'.val) ||
      (decide (c.val ≥ 'a'.val) && decide (c.val ≤ 'z'.val))) = true := h
  rw [Bool.or_eq_true, Bool.and_eq_true, decide_eq_true_eq, decide_eq_true_eq,
    decide_eq_true_eq] at hrange
  show c.val.toNat < 128
  rcases hrange with ⟨-, hle⟩ | ⟨-, hle⟩
  · exact Nat.lt_of_le_of_lt (UInt32.le_iff_toNat_le.1 hle) (by decide)
  · exact Nat.lt_of_le_of_lt (UInt32.le_iff_toNat_le.1 hle) (by decide)

theorem continuesCallee_of_startsCallee {c : Char} (h : startsCallee c = true) :
    continuesCallee c = true := by
  have hword : c.isAlpha = true → isWord c = true := by
    intro halpha
    rw [isWord, isAlphanumeric, if_pos (ascii_of_isAlpha halpha), Char.isAlphanum, halpha]
    rfl
  rw [startsCallee, Bool.or_eq_true, Bool.or_eq_true, beq_iff_eq, beq_iff_eq] at h
  rcases h with (halpha | rfl) | rfl
  · rw [continuesCallee, hword halpha]
    rfl
  · decide
  · decide

theorem IsCallee.continues (h : IsCallee name) : ∀ c ∈ name, continuesCallee c = true := by
  cases name with
  | nil => exact absurd h id
  | cons c s =>
    intro d hd
    rcases List.mem_cons.1 hd with rfl | hd
    · exact continuesCallee_of_startsCallee h.1
    · exact h.2 d hd

/-- The longest end of a text that goes on like a name holds every name that the text ends in. -/
theorem isSuffix_run (h : ∀ c ∈ name, continuesCallee c = true) (hend : name <:+ text) :
    name <:+ (text.reverse.takeWhile continuesCallee).reverse := by
  obtain ⟨front, rfl⟩ := hend
  rw [List.reverse_append, List.takeWhile_append_of_pos (by simpa using h), List.reverse_append,
    List.reverse_reverse]
  exact List.suffix_append ..

/-- What is dropped in front, where no name may begin, is no part of a name at the end. -/
theorem isSuffix_dropWhile (h : IsCallee name) (hend : name <:+ text) :
    name <:+ text.dropWhile (!startsCallee ·) := by
  obtain ⟨front, rfl⟩ := hend
  cases name with
  | nil => exact List.nil_suffix
  | cons c s =>
    have hstop : (c :: s).dropWhile (!startsCallee ·) = c :: s := by
      rw [List.dropWhile_cons_of_neg]
      simp [h.1]
    rw [List.dropWhile_append, hstop]
    split
    · exact List.suffix_rfl
    · exact List.suffix_append ..

/-- And what is left of a text that goes on like a name is one. -/
theorem isCallee_dropWhile (h : ∀ c ∈ text, continuesCallee c = true)
    (hne : text.dropWhile (!startsCallee ·) ≠ []) :
    IsCallee (text.dropWhile (!startsCallee ·)) := by
  have hhead := List.head?_dropWhile_not (!startsCallee ·) text
  have hsuffix := List.dropWhile_suffix (!startsCallee ·) (l := text)
  obtain ⟨c, s, hcons⟩ := List.exists_cons_of_ne_nil hne
  rw [hcons] at hhead hsuffix ⊢
  exact ⟨by simpa using hhead, fun d hd => h d (hsuffix.subset (List.mem_cons_of_mem c hd))⟩

/-- **Looking back finds the name that the text ends in**, blanks after it disregarded. -/
theorem endsInCallee_calleeOf (text : Text) : EndsInCallee (trimEnd text) (calleeOf text) := by
  obtain ⟨run, hrun⟩ : ∃ run, ((trimEnd text).reverse.takeWhile continuesCallee).reverse = run :=
    ⟨_, rfl⟩
  have hcontinues : ∀ c ∈ run, continuesCallee c = true := by
    intro c hc
    rw [← hrun, List.mem_reverse] at hc
    exact List.all_eq_true.1 List.all_takeWhile c hc
  have hend : run <:+ trimEnd text := by
    rw [← hrun, ← List.reverse_prefix, List.reverse_reverse]
    exact List.takeWhile_prefix _
  rw [calleeOf, hrun]
  refine ⟨(List.dropWhile_suffix _).trans hend, isCallee_dropWhile hcontinues, ?_⟩
  intro other hother hsuffix
  have hother_run := isSuffix_run hother.continues hsuffix
  rw [hrun] at hother_run
  exact isSuffix_dropWhile hother hother_run

/-! ## The innermost parenthesis -/

/-- The parenthesis at the place stays open, and none after it does. -/
def Innermost (line : Text) (place : Nat) : Prop :=
  ∃ outer inner, unclosed line = outer ++ (place, round) :: inner ∧
    ∀ entry ∈ inner, entry.2 ≠ round

theorem Innermost.mem (h : Innermost line place) : (place, round) ∈ unclosed line := by
  obtain ⟨outer, inner, hsplit, -⟩ := h
  rw [hsplit]
  simp

/-- No open parenthesis stands further in. -/
theorem Innermost.le {other : Nat} (h : Innermost line place)
    (hother : (other, round) ∈ unclosed line) : other ≤ place := by
  obtain ⟨outer, inner, hsplit, hinner⟩ := h
  have hsorted := unclosed_sorted line
  rw [hsplit] at hother hsorted
  rcases List.mem_append.1 hother with houter | hother
  · exact Nat.le_of_lt ((List.pairwise_append.1 hsorted).2.2 _ houter _ List.mem_cons_self)
  · rcases List.mem_cons.1 hother with heq | hin
    · rw [Prod.mk.inj heq |>.1]
    · exact absurd rfl (hinner _ hin)

theorem openParenthesis?_eq_some_iff :
    openParenthesis? line = some place ↔ Innermost line place := by
  rw [openParenthesis?, List.getLast?_filter, Option.map_eq_some_iff]
  constructor
  · rintro ⟨⟨place, b⟩, hfound, rfl⟩
    obtain ⟨hround, inner, outer, hsplit, hinner⟩ := List.find?_eq_some_iff_append.1 hfound
    obtain rfl : b = round := of_decide_eq_true hround
    refine ⟨outer.reverse, inner.reverse, ?_, fun entry hentry => ?_⟩
    · rw [← List.reverse_reverse (unclosed line), hsplit]
      simp
    · simpa using hinner entry (List.mem_reverse.1 hentry)
  · rintro ⟨outer, inner, hsplit, hinner⟩
    refine ⟨(place, round), List.find?_eq_some_iff_append.2 ⟨decide_eq_true rfl, inner.reverse,
      outer.reverse, by simp [hsplit], fun entry hentry => ?_⟩, rfl⟩
    simpa using hinner entry (List.mem_reverse.1 hentry)

/-! ## The scan of the rest on its own -/

/-- On its own a scan that starts further on leaves the same kinds of brackets open. -/
theorem map_snd_openFrom (quote previous : Option Char) (offset : Nat) (s : Text) :
    (openFrom [] quote previous offset s).map Prod.snd =
      (openFrom [] quote previous 0 s).map Prod.snd := by
  induction offset with
  | zero => rfl
  | succ offset ih =>
    have hmoved := openFrom_map_further [] quote previous offset s
    rw [List.map_nil] at hmoved
    rw [hmoved, List.map_map, ← ih]
    rfl

/-- What is left open was open before or stands at the offset or after it. -/
theorem mem_or_le_of_mem_openFrom {stack : List (Nat × Bracket)} {quote previous : Option Char}
    {offset : Nat} {entry : Nat × Bracket}
    (h : entry ∈ openFrom stack quote previous offset s) : entry ∈ stack ∨ offset ≤ entry.1 := by
  induction s generalizing stack quote previous offset with
  | nil => exact .inl h
  | cons c s ih =>
    rw [openFrom_cons] at h
    rcases ih h with hopen | hle
    · rcases mem_stackAfter hopen with hopen | ⟨b, -, rfl⟩
      · exact .inl hopen
      · exact .inr (Nat.le_refl offset)
    · exact .inr (Nat.le_of_succ_le hle)

/-- One character keeps a stack on top of another one, seen from one kind. -/
theorem isPrefix_stackAfter {stack whole : List (Nat × Bracket)} (quote : Option Char)
    (offset : Nat) (c : Char) (h : stack.filter (·.2 = b) <+: whole.filter (·.2 = b)) :
    (stackAfter quote offset c stack).filter (·.2 = b) <+:
      (stackAfter quote offset c whole).filter (·.2 = b) := by
  rw [filter_stackAfter, filter_stackAfter]
  split
  · exact List.cons_prefix_cons.2 ⟨rfl, h⟩
  · split
    · obtain ⟨below, hbelow⟩ := h
      rw [← hbelow]
      cases stack.filter (·.2 = b) with
      | nil => exact List.nil_prefix
      | cons entry rest => exact List.prefix_append ..
    · exact h

/-- **What a text leaves open on its own lies on top of what it leaves open after other text.** -/
theorem isPrefix_openFrom {stack whole : List (Nat × Bracket)} (quote previous : Option Char)
    (offset : Nat) (s : Text)
    (h : stack.filter (·.2 = b) <+: whole.filter (·.2 = b)) :
    (openFrom stack quote previous offset s).filter (·.2 = b) <+:
      (openFrom whole quote previous offset s).filter (·.2 = b) := by
  induction s generalizing stack whole quote previous offset with
  | nil => exact h
  | cons c s ih =>
    rw [openFrom_cons, openFrom_cons]
    exact ih _ _ _ (isPrefix_stackAfter quote offset c h)

/-- **What the rest of a line leaves open on its own, the line leaves open further in.** -/
theorem exists_mem_unclosed_after {inside : Nat}
    (hquote : quoteFrom none none before = none) (h : (inside, b) ∈ unclosed arguments) :
    ∃ place, before.length < place ∧ (place, b) ∈ unclosed (before ++ '(' :: arguments) := by
  have hscan : (unclosed (before ++ '(' :: arguments)).reverse =
      openFrom ((before.length, round) :: openFrom [] none none 0 before) none (some '(')
        (before.length + 1) arguments := by
    rw [unclosed, List.reverse_reverse, openFrom_append, hquote, openFrom_cons, Nat.zero_add]
    rfl
  -- scanned in its place but on its own, the rest leaves a bracket of the kind open as well
  have hkind : b ∈ (openFrom [] none (some '(') (before.length + 1) arguments).map Prod.snd := by
    rw [map_snd_openFrom, openFrom_previous [] (some '(') none]
    exact List.mem_map.2 ⟨_, List.mem_reverse.1 h, rfl⟩
  obtain ⟨⟨place, b⟩, hown, rfl⟩ := List.mem_map.1 hkind
  refine ⟨place, ?_, ?_⟩
  · rcases mem_or_le_of_mem_openFrom hown with hnil | hle
    · cases hnil
    · exact hle
  · have hnone : ([] : List (Nat × Bracket)).filter (·.2 = b) <+:
        ((before.length, round) :: openFrom [] none none 0 before).filter (·.2 = b) :=
      List.nil_prefix
    have htop := isPrefix_openFrom none (some '(') (before.length + 1) arguments hnone
    rw [← List.mem_reverse, hscan]
    exact (List.mem_filter.1 (htop.subset (List.mem_filter.2 ⟨hown, decide_eq_true rfl⟩))).1

/-- After the innermost parenthesis no call is in progress. -/
theorem Innermost.openCall_arguments
    (h : Innermost (before ++ '(' :: arguments) before.length) : openCall arguments = none := by
  rw [openCall_eq_none_iff]
  intro inside hinside
  have hquote : quoteFrom none none before = none := by
    have houtside := (outside_iff.1 (mem_unclosed_iff.1 h.mem).opens.1).2
    rwa [quoteAt, List.take_left] at houtside
  obtain ⟨place, hlt, hplace⟩ := exists_mem_unclosed_after hquote hinside
  exact Nat.not_le_of_lt hlt (h.le hplace)

/-! ## The line in its parts -/

/-- **A line split at its innermost open parenthesis.** -/
structure SplitsAtCall (line before callee blanks arguments : Text) : Prop where
  /-- The line in its parts. -/
  line_eq : line = before ++ callee ++ blanks ++ '(' :: arguments
  /-- Between the name and the parenthesis stand only blanks. -/
  blank : allBlank blanks = true
  /-- No blank stands right before those. -/
  visible : ∀ c ∈ (before ++ callee).getLast?, isBlank c = false
  /-- The parenthesis stays open, and none after it does. -/
  innermost : Innermost line (before ++ callee ++ blanks).length
  /-- No call is in progress in the arguments. -/
  complete : openCall arguments = none
  /-- The name is the longest that it can be. -/
  named : EndsInCallee (before ++ callee) callee

/-- The parts say what the call is. -/
theorem SplitsAtCall.openCall_eq (h : SplitsAtCall line before callee blanks arguments) :
    openCall line = some (callee, arguments) := by
  have hcallee : calleeOf (before ++ callee ++ blanks) = callee := by
    have hends := endsInCallee_calleeOf (before ++ callee ++ blanks)
    rw [trimEnd_append_of_allBlank h.blank, trimEnd_of_visible h.visible] at hends
    exact hends.unique h.named
  have htake : line.take (before ++ callee ++ blanks).length = before ++ callee ++ blanks := by
    rw [h.line_eq, List.take_left]
  have hdrop : line.drop ((before ++ callee ++ blanks).length + 1) = arguments := by
    rw [h.line_eq, List.drop_append]
    simp
  rw [openCall, openParenthesis?_eq_some_iff.2 h.innermost, Option.map_some, htake, hdrop, hcallee]

/-- And a line with a call in progress has these parts. -/
theorem exists_splitsAtCall (h : openCall line = some (callee, arguments)) :
    ∃ before blanks, SplitsAtCall line before callee blanks arguments := by
  obtain ⟨place, hplace, hparts⟩ := Option.map_eq_some_iff.1 h
  have hinnermost := openParenthesis?_eq_some_iff.1 hplace
  obtain ⟨hlt, hopener⟩ := List.getElem?_eq_some_iff.1 (mem_unclosed_iff.1 hinnermost.mem).opens.2
  have hlength : (line.take place).length = place := List.length_take_of_le hlt.le
  have hline : line = line.take place ++ '(' :: line.drop (place + 1) := by
    show line = line.take place ++ round.opener :: line.drop (place + 1)
    rw [← hopener, List.getElem_cons_drop, List.take_append_drop]
  obtain ⟨rfl, rfl⟩ := Prod.mk.inj hparts
  have hnamed := endsInCallee_calleeOf (line.take place)
  obtain ⟨before, hbefore⟩ := hnamed.isSuffix
  obtain ⟨blanks, hblank, htrim⟩ := exists_trimEnd_append (line.take place)
  rw [← hbefore] at hnamed htrim
  refine ⟨before, blanks, ?_, hblank, ?_, ?_, ?_, hnamed⟩
  · rw [← htrim]
    exact hline
  · rw [hbefore]
    exact fun c hc => not_isBlank_of_getLast?_trimEnd hc
  · rw [← htrim, hlength]
    exact hinnermost
  · have harguments : Innermost (line.take place ++ '(' :: line.drop (place + 1))
        (line.take place).length := by
      rw [← hline, hlength]
      exact hinnermost
    exact harguments.openCall_arguments

/-- **The innermost open parenthesis splits the line**, on every line. A call in progress is told by
the parts of the line, and there is none just if no parenthesis stays open. -/
theorem openCall_splits_line (line : Text) :
    (∀ callee arguments, openCall line = some (callee, arguments) ↔
      ∃ before blanks, SplitsAtCall line before callee blanks arguments) ∧
    (openCall line = none ↔ ∀ place, (place, round) ∉ unclosed line) := by
  refine ⟨fun callee arguments => ⟨exists_splitsAtCall, ?_⟩, openCall_eq_none_iff⟩
  rintro ⟨before, blanks, hsplit⟩
  exact hsplit.openCall_eq

/-- Of two open parentheses the inner one counts, and one in a string is none. -/
example : openCall "f(a, 2x.map  (g(1), \"(\"" = some ("x.map".toList, "g(1), \"(\"".toList) := by
  decide

end Bracket

end CodeKeyboard
