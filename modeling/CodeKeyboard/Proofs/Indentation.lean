import CodeKeyboard.Context
import CodeKeyboard.Operator
import CodeKeyboard.Pattern.Accept
import CodeKeyboard.Proofs.BracketMatching

/-!
# What does not see the indentation of a line

Code is typed at some depth, and how deep should make no difference to what is recognised on a line.
`IgnoresIndent` says so of any function of a line, one blank at a time: a blank in front of the line
changes nothing. Everything that is read off a line is taken through the same forms, from the tests
on characters up to patterns.

A pattern ignores the indentation when it begins with a part that does (`IgnoresIndent.seq`), such
as any number of blanks or any text, and the part after it cannot begin with a blank. The second is
a check on the pattern, `Pattern.startsIn`, which the patterns of the library pass by evaluation.

- `IgnoresIndent.append`: a whole indentation in front changes nothing either.
- `IgnoresIndent.of_allBlank`: on a blank line such a function is what it is on the empty line.
- `Pattern.exists_class_of_startsIn`: what the check means, whatever the texts begin with.
- `Bracket.openCall_ignoresIndent`: the call in progress, whose offsets move with the indentation.
-/

namespace CodeKeyboard

/-- A function of a line to which a blank in front of the line makes no difference. -/
def IgnoresIndent {α : Type} (f : Text → α) : Prop :=
  ∀ c line, Text.isBlank c = true → f (c :: line) = f line

namespace IgnoresIndent

variable {α β : Type} {f g : Text → α} {p q : Text → Bool}

theorem append (h : IgnoresIndent f) {indent : Text} (hindent : Text.allBlank indent = true)
    (line : Text) : f (indent ++ line) = f line := by
  induction indent with
  | nil => rfl
  | cons c indent ih =>
    rw [Text.allBlank, List.all_cons, Bool.and_eq_true] at hindent
    rw [List.cons_append, h c _ hindent.1, ih hindent.2]

theorem of_allBlank (h : IgnoresIndent f) {line : Text} (hline : Text.allBlank line = true) :
    f line = f [] := by
  have hempty := h.append hline []
  rwa [List.append_nil] at hempty

/-! ## Putting functions together -/

theorem const (a : α) : IgnoresIndent fun _ => a :=
  fun _ _ _ => rfl

theorem comp (h : IgnoresIndent f) (read : α → β) : IgnoresIndent fun line => read (f line) :=
  fun c line hc => congrArg read (h c line hc)

theorem and (hp : IgnoresIndent p) (hq : IgnoresIndent q) :
    IgnoresIndent fun line => p line && q line := by
  intro c line hc
  simp only [hp c line hc, hq c line hc]

theorem or (hp : IgnoresIndent p) (hq : IgnoresIndent q) :
    IgnoresIndent fun line => p line || q line := by
  intro c line hc
  simp only [hp c line hc, hq c line hc]

theorem ite (hp : IgnoresIndent p) (hf : IgnoresIndent f) (hg : IgnoresIndent g) :
    IgnoresIndent fun line => if p line then f line else g line := by
  intro c line hc
  simp only [hp c line hc, hf c line hc, hg c line hc]

end IgnoresIndent

/-! ## Characters -/

namespace Text

theorem isWord_of_isBlank {c : Char} (h : isBlank c = true) : isWord c = false := by
  have hall : ∀ r ∈ blankTable, ∀ k < r.2 + 1 - r.1, isWord (Char.ofNat (r.1 + k)) = false := by
    decide +kernel
  -- a blank is a place in one of the few ranges of the table
  obtain ⟨r, hr, hfirst, hlast⟩ := CharTable.contains_iff.1 h
  have hk := hall r hr (c.toNat - r.1) (by omega)
  rwa [Nat.add_sub_cancel' hfirst, Char.ofNat_toNat] at hk

theorem isAlphanumeric_of_isBlank {c : Char} (h : isBlank c = true) :
    isAlphanumeric c = false := by
  have hword := isWord_of_isBlank h
  rw [isWord, Bool.or_eq_false_iff] at hword
  exact hword.1

/-- Every character of the text is visible. -/
def allVisible (s : Text) : Bool :=
  s.all (!isBlank ·)

/-- The text begins with a visible character. -/
def beginsVisibly (s : Text) : Bool :=
  s.head?.any (!isBlank ·)

theorem not_mem_of_allVisible {s : Text} (hs : s.allVisible = true) {c : Char}
    (hc : isBlank c = true) : c ∉ s := by
  intro hmem
  have hvisible := List.all_eq_true.1 hs c hmem
  rw [hc] at hvisible
  cases hvisible

/-! ## The ends of a line -/

theorem trim_ignoresIndent : IgnoresIndent trim := by
  intro c line hc
  rw [trim, trim, trimStart, List.dropWhile_cons_of_pos hc]
  rfl

theorem trimStart_ignoresIndent : IgnoresIndent trimStart :=
  fun _ _ hc => List.dropWhile_cons_of_pos hc

/-- Without the blanks at its end a line begins with the blank as before, or is empty as before. -/
theorem trimEnd_cons_of_isBlank {c : Char} (hc : isBlank c = true) (line : Text) :
    (trimEnd line = [] ∧ trimEnd (c :: line) = []) ∨
      (trimEnd line ≠ [] ∧ trimEnd (c :: line) = c :: trimEnd line) := by
  rw [trimEnd]
  split
  · next hempty => exact .inl ⟨hempty, if_pos hc⟩
  · next hne => exact .inr ⟨hne, rfl⟩

end Text

open Text

/-- What ignores the indentation does so after the blanks at the end are taken off. -/
theorem IgnoresIndent.trimEnd {α : Type} {f : Text → α} (h : IgnoresIndent f) :
    IgnoresIndent fun line => f line.trimEnd := by
  intro c line hc
  obtain ⟨hempty, hempty'⟩ | ⟨-, hcons⟩ := trimEnd_cons_of_isBlank hc line
  · simp only [hempty, hempty']
  · simp only [hcons, h c _ hc]

namespace Text

/-- A test of the last character ignores the indentation when no blank passes it. -/
theorem getLast?_any_ignoresIndent {test : Char → Bool}
    (h : ∀ c, isBlank c = true → test c = false) :
    IgnoresIndent fun line => line.getLast?.any test := by
  intro c line hc
  cases line with
  | nil => exact h c hc
  | cons d line => simp only [List.getLast?_cons_cons]

theorem isSuffixOf_ignoresIndent {part : Text} (h : part.allVisible = true) :
    IgnoresIndent part.isSuffixOf := by
  intro c line hc
  rw [Bool.eq_iff_iff, List.isSuffixOf_iff_suffix, List.isSuffixOf_iff_suffix,
    List.suffix_cons_iff]
  refine ⟨fun hsuffix => hsuffix.resolve_left ?_, .inr⟩
  rintro rfl
  exact not_mem_of_allVisible h hc List.mem_cons_self

/-- What begins visibly does not begin with a blank. -/
theorem isPrefixOf_cons_of_isBlank {part : Text} (h : part.beginsVisibly = true) {c : Char}
    (hc : isBlank c = true) (s : Text) : part.isPrefixOf (c :: s) = false := by
  cases part with
  | nil => cases h
  | cons d part =>
    have hne : (d == c) = false := by
      rw [beq_eq_false_iff_ne]
      rintro rfl
      simp [beginsVisibly, hc] at h
    rw [List.isPrefixOf_cons_cons, hne, Bool.false_and]

theorem hasPart_ignoresIndent {part : Text} (h : part.beginsVisibly = true) :
    IgnoresIndent (hasPart part) := by
  intro c line hc
  rw [hasPart, isPrefixOf_cons_of_isBlank h hc, Bool.false_or]

/-- A run at the end of a text goes no further back than a character that cannot be in it. -/
theorem takeWhile_reverse_cons {p : Char → Bool} {c : Char} (hc : p c = false) (s : Text) :
    (c :: s).reverse.takeWhile p = s.reverse.takeWhile p := by
  rw [List.reverse_cons, List.takeWhile_append]
  split
  · next hall =>
    rw [List.takeWhile_cons_of_neg (by simp [hc]), List.append_nil]
    exact ((List.takeWhile_prefix p).eq_of_length hall).symm
  · rfl

end Text

/-! ## The word, the operator and the call at the cursor -/

theorem Context.lastWordOf_ignoresIndent : IgnoresIndent Context.lastWordOf := by
  intro c before hc
  have hseparator : Context.isSeparator c = true := by
    rw [Context.isSeparator, hc, Bool.true_or]
  rw [Context.lastWordOf, Context.lastWordOf, List.reverse_cons, List.dropWhile_append]
  split
  · next hempty =>
    rw [List.dropWhile_cons_of_pos hseparator, List.isEmpty_iff.1 hempty]
    rfl
  · -- the word ends before the blank is reached
    have hstop := takeWhile_reverse_cons (p := (!Context.isSeparator ·)) (c := c)
      (by simp [hseparator]) (before.reverse.dropWhile Context.isSeparator).reverse
    rw [List.reverse_cons, List.reverse_reverse] at hstop
    rw [hstop]

/-- No word stands before a cursor on a blank line. -/
theorem Context.lastWord_of_allBlank {text : Text} {cursor : Int}
    (h : (extract text cursor).line.allBlank = true) : (extract text cursor).lastWord = [] := by
  have hbefore : (lineBefore text (clamp text.length cursor)).allBlank = true := by
    rw [allBlank, List.all_eq_true] at h ⊢
    exact fun c hc => h c (List.mem_append_left _ hc)
  exact lastWordOf_ignoresIndent.of_allBlank hbefore

namespace Operator

/-- No operator begins with a blank. -/
theorem alone?_cons_of_isBlank {c : Char} (hc : isBlank c = true) (s : Text) :
    alone? (c :: s) = none := by
  rw [alone?, List.find?_eq_none]
  intro op hop
  have hbegins : op.beginsVisibly = true := by
    revert op
    decide
  simp [isPrefixOf_cons_of_isBlank hbegins hc]

theorem opensComparison_of_isBlank {c : Char} (hc : isBlank c = true) :
    opensComparison c = false := by
  rw [opensComparison, decide_eq_false_iff_not]
  exact not_mem_of_allVisible (by decide) hc

/-- A blank before a text makes no comparison of what it begins with, like nothing before it. -/
theorem pendingAfter_of_isBlank {c : Char} (hc : isBlank c = true) (s : Text) :
    pendingAfter (some c) s = pendingAfter none s := by
  cases s with
  | nil => rfl
  | cons d s => rw [pendingAfter, pendingAfter, Option.any_some, opensComparison_of_isBlank hc,
      Option.any_none]

theorem pending?_ignoresIndent : IgnoresIndent pending? := by
  intro c line hc
  rw [pending?, pendingAfter, Option.any_none, if_neg Bool.false_ne_true, alone?_cons_of_isBlank hc,
    Option.none_or, pendingAfter_of_isBlank hc, pending?]

end Operator

namespace Bracket

/-- An open bracket one place further on. -/
def further (entry : Nat × Bracket) : Nat × Bracket :=
  (entry.1 + 1, entry.2)

theorem stackAfter_map_further (quote : Option Char) (offset : Nat) (c : Char)
    (stack : List (Nat × Bracket)) :
    stackAfter quote (offset + 1) c (stack.map further) =
      (stackAfter quote offset c stack).map further := by
  unfold stackAfter
  split
  · rfl
  · rfl
  · rw [closeLatest, closeLatest, List.eraseP_map]
    rfl
  · rfl

/-- Counting the offsets from one place further back moves every open bracket. -/
theorem openFrom_map_further (stack : List (Nat × Bracket)) (quote previous : Option Char)
    (offset : Nat) (s : Text) :
    openFrom (stack.map further) quote previous (offset + 1) s =
      (openFrom stack quote previous offset s).map further := by
  induction s generalizing stack quote previous offset with
  | nil => rfl
  | cons c s ih => rw [openFrom_cons, openFrom_cons, stackAfter_map_further, ih]

/-- Outside of quotes it does not matter which character stands before. -/
theorem openFrom_previous (stack : List (Nat × Bracket)) (previous previous' : Option Char)
    (offset : Nat) (s : Text) :
    openFrom stack none previous offset s = openFrom stack none previous' offset s := by
  cases s with
  | nil => rfl
  | cons c s => rfl

theorem isQuote_of_isBlank {c : Char} (hc : isBlank c = true) : isQuote c = false := by
  rw [isQuote, decide_eq_false_iff_not]
  exact not_mem_of_allVisible (by decide) hc

theorem opened?_of_isBlank {c : Char} (hc : isBlank c = true) : opened? c = none := by
  rw [Option.eq_none_iff_forall_ne_some]
  intro b hopened
  obtain rfl := opened?_eq_some_iff.1 hopened
  revert hc
  cases b <;> decide

theorem closed?_of_isBlank {c : Char} (hc : isBlank c = true) : closed? c = none := by
  rw [Option.eq_none_iff_forall_ne_some]
  intro b hclosed
  obtain rfl := closed?_eq_some_iff.1 hclosed
  revert hc
  cases b <;> decide

/-- A blank in front of a line moves its open brackets one place on. -/
theorem unclosed_cons_of_isBlank {c : Char} (hc : isBlank c = true) (line : Text) :
    unclosed (c :: line) = (unclosed line).map further := by
  have hstack : stackAfter none 0 c [] = [] := by
    simp only [stackAfter, opened?_of_isBlank hc, closed?_of_isBlank hc]
  have hquote : nextQuote none none c = none := by
    rw [nextQuote, isQuote_of_isBlank hc]
    rfl
  have hmoved := openFrom_map_further [] none none 0 line
  rw [List.map_nil] at hmoved
  rw [unclosed, unclosed, openFrom_cons, hstack, hquote, openFrom_previous [] (some c) none,
    hmoved, List.map_reverse]

theorem openParenthesis?_cons_of_isBlank {c : Char} (hc : isBlank c = true) (line : Text) :
    openParenthesis? (c :: line) = (openParenthesis? line).map (· + 1) := by
  have hround : (fun entry : Nat × Bracket => decide (entry.2 = round)) ∘ further =
      fun entry => decide (entry.2 = round) := rfl
  rw [openParenthesis?, openParenthesis?, unclosed_cons_of_isBlank hc, List.filter_map, hround,
    List.getLast?_map, Option.map_map, Option.map_map]
  rfl

theorem continuesCallee_of_isBlank {c : Char} (hc : isBlank c = true) :
    continuesCallee c = false := by
  rw [continuesCallee, isWord_of_isBlank hc, Bool.false_or, decide_eq_false_iff_not]
  exact not_mem_of_allVisible (by decide) hc

theorem calleeOf_ignoresIndent : IgnoresIndent calleeOf := by
  have hrun : IgnoresIndent fun s : Text =>
      (s.reverse.takeWhile continuesCallee).reverse.dropWhile (!startsCallee ·) := by
    intro c s hc
    dsimp only
    rw [takeWhile_reverse_cons (continuesCallee_of_isBlank hc)]
  exact hrun.trimEnd

theorem openCall_ignoresIndent : IgnoresIndent openCall := by
  intro c line hc
  rw [openCall, openCall, openParenthesis?_cons_of_isBlank hc, Option.map_map]
  -- one place on, the same text follows the bracket, and a blank more stands before it
  congr 1
  funext place
  simp only [Function.comp_apply, List.take_succ_cons, List.drop_succ_cons,
    calleeOf_ignoresIndent c _ hc]

end Bracket

/-! ## Patterns -/

namespace CharClass

/-- The class has no blank, as far as its form tells. -/
def isVisible : CharClass → Bool
  | any => false
  | single c => !isBlank c
  | range first last => blankTable.all fun r => r.2 < first.toNat || last.toNat < r.1
  | blank => false
  | word => true
  | either a b => a.isVisible && b.isVisible
  | outside a => a == blank

theorem contains_of_isVisible {a : CharClass} (h : a.isVisible = true) {c : Char}
    (hc : isBlank c = true) : a.contains c = false := by
  induction a with
  | any => cases h
  | single d =>
    rw [contains_single, beq_eq_false_iff_ne]
    rintro rfl
    simp [isVisible, hc] at h
  | range first last =>
    obtain ⟨r, hr, hfirst, hlast⟩ := CharTable.contains_iff.1 hc
    have hapart := List.all_eq_true.1 h r hr
    rw [Bool.or_eq_true, decide_eq_true_eq, decide_eq_true_eq] at hapart
    rw [contains, Bool.and_eq_false_iff, decide_eq_false_iff_not, decide_eq_false_iff_not]
    omega
  | blank => cases h
  | word => exact isWord_of_isBlank hc
  | either a b iha ihb =>
    rw [isVisible, Bool.and_eq_true] at h
    rw [contains_either, iha h.1, ihb h.2, Bool.or_false]
  | outside a =>
    obtain rfl : a = blank := by simpa [isVisible] using h
    rw [contains_outside, contains_blank, hc, Bool.not_true]

end CharClass

namespace Pattern

/-- Every text of the pattern that is not empty begins with a character of a class that passes the
check. -/
def startsIn (check : CharClass → Bool) : Pattern → Bool
  | never => true
  | nothing => true
  | one a => check a
  | seq p q => p.startsIn check && (!p.acceptsEmpty || q.startsIn check)
  | alt p q => p.startsIn check && q.startsIn check
  | many p => p.startsIn check

/-- **What the check means** for a text of the pattern. -/
theorem exists_class_of_startsIn {check : CharClass → Bool} {p : Pattern}
    (h : p.startsIn check = true) {c : Char} {s : Text} (hmatch : Matches p (c :: s)) :
    ∃ a, check a = true ∧ a.contains c = true := by
  induction p generalizing s with
  | never => exact absurd hmatch (not_matches_never _)
  | nothing => simp at hmatch
  | one a =>
    obtain ⟨d, hd, hs⟩ := matches_one.1 hmatch
    obtain ⟨rfl, rfl⟩ : c = d ∧ s = [] := by simpa using hs
    exact ⟨a, h, hd⟩
  | seq p q ihp ihq =>
    rw [startsIn, Bool.and_eq_true] at h
    obtain ⟨t, u, ht, hu, hs⟩ := matches_seq.1 hmatch
    cases t with
    | nil =>
      -- the first part is empty, so the character is the second part's
      have hq : q.startsIn check = true := by simpa [acceptsEmpty_iff.2 ht] using h.2
      rw [List.nil_append] at hs
      exact ihq hq (hs ▸ hu)
    | cons d t =>
      obtain ⟨rfl, -⟩ : c = d ∧ s = t ++ u := by simpa using hs
      exact ihp h.1 ht
  | alt p q ihp ihq =>
    rw [startsIn, Bool.and_eq_true] at h
    obtain hleft | hright := matches_alt.1 hmatch
    · exact ihp h.1 hleft
    · exact ihq h.2 hright
  | many p ih =>
    obtain ⟨t, u, ht, -, -⟩ := matches_many_cons.1 hmatch
    exact ih h ht

/-- No text of a pattern that begins visibly begins with a blank. -/
theorem not_matches_of_startsIn_isVisible {p : Pattern}
    (h : p.startsIn CharClass.isVisible = true) {c : Char} (hc : isBlank c = true) (s : Text) :
    ¬ Matches p (c :: s) := by
  intro hmatch
  obtain ⟨a, ha, hcontains⟩ := exists_class_of_startsIn h hmatch
  rw [CharClass.contains_of_isVisible ha hc] at hcontains
  cases hcontains

theorem ignoresIndent_accepts_iff {p : Pattern} :
    IgnoresIndent p.accepts ↔
      ∀ c s, isBlank c = true → (Matches p (c :: s) ↔ Matches p s) := by
  constructor
  · intro h c s hc
    rw [← accepts_iff, ← accepts_iff, h c s hc]
  · intro h c s hc
    rw [Bool.eq_iff_iff, accepts_iff, accepts_iff]
    exact h c s hc

end Pattern

namespace IgnoresIndent

open Pattern

theorem anything : IgnoresIndent anything.accepts :=
  ignoresIndent_accepts_iff.2 fun c s _ => by simp

theorem blanks : IgnoresIndent blanks.accepts := by
  refine ignoresIndent_accepts_iff.2 fun c s hc => ?_
  rw [matches_blanks, matches_blanks, allBlank, allBlank, List.all_cons, hc, Bool.true_and]

/-- The beginning of a line, or any text that ends in a character of the class: what stands before a
word that is looked for. -/
theorem lead {a : CharClass} (ha : ∀ c, isBlank c = true → a.contains c = true) :
    IgnoresIndent (alt nothing (seq Pattern.anything (one a))).accepts := by
  have hlead : ∀ s, Matches (alt nothing (seq Pattern.anything (one a))) s ↔
      s = [] ∨ ∃ t c, a.contains c = true ∧ s = t ++ [c] := by
    intro s
    rw [matches_alt, matches_nothing, matches_seq]
    refine or_congr_right ⟨?_, ?_⟩
    · rintro ⟨t, u, -, hu, rfl⟩
      obtain ⟨c, hc, rfl⟩ := matches_one.1 hu
      exact ⟨t, c, hc, rfl⟩
    · rintro ⟨t, c, hc, rfl⟩
      exact ⟨t, [c], matches_anything t, matches_one.2 ⟨c, hc, rfl⟩, rfl⟩
  -- the blank itself may be what stands before the word
  refine ignoresIndent_accepts_iff.2 fun c s hc => ?_
  rw [hlead, hlead]
  constructor
  · rintro (hnil | ⟨t, d, hd, hs⟩)
    · cases hnil
    · cases t with
      | nil => exact .inl (List.cons.inj hs).2
      | cons e t => exact .inr ⟨t, d, hd, (List.cons.inj hs).2⟩
  · rintro (rfl | ⟨t, d, hd, rfl⟩)
    · exact .inr ⟨[], c, ha c hc, rfl⟩
    · exact .inr ⟨c :: t, d, hd, rfl⟩

/-- **A pattern ignores the indentation** when its first part does and the rest begins visibly. -/
theorem seq {p q : Pattern} (hp : IgnoresIndent p.accepts)
    (hq : q.startsIn CharClass.isVisible = true) : IgnoresIndent (Pattern.seq p q).accepts := by
  rw [ignoresIndent_accepts_iff] at hp ⊢
  intro c s hc
  rw [matches_seq, matches_seq]
  constructor
  · rintro ⟨t, u, ht, hu, hs⟩
    cases t with
    | nil =>
      -- the rest would begin with the blank
      rw [List.nil_append] at hs
      exact absurd (hs ▸ hu) (not_matches_of_startsIn_isVisible hq hc s)
    | cons d t =>
      obtain ⟨rfl, rfl⟩ : c = d ∧ s = t ++ u := by simpa using hs
      exact ⟨t, u, (hp c t hc).1 ht, hu, rfl⟩
  · rintro ⟨t, u, ht, hu, rfl⟩
    exact ⟨c :: t, u, (hp c t hc).2 ht, hu, rfl⟩

theorem indented {ps : List Pattern} (h : (chain ps).startsIn CharClass.isVisible = true) :
    IgnoresIndent (Pattern.indented ps).accepts :=
  blanks.seq h

end IgnoresIndent

end CodeKeyboard
