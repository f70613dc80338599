import CodeKeyboard.Assoc
import CodeKeyboard.Expansion
import Mathlib.Order.Bounds.Basic

/-!
# The rule that decides what a tap inserts

A tap inserts what the first rule that applies says. The rules of a language are for different
labels, so at most one of them applies, and it is the first of all. After them come the rules that
change the first line of a text only, and last the one for its further lines.

- `Expansion.insertion_cases`: which rule an insertion comes from, and which rules before it do not
  apply.
- `Expansion.insertion_of_mem_ownRules`: a rule of the language that applies decides.
- One lemma for each rule says what it inserts; `Expansion.withoutTyped_eq_some_iff` says when the
  beginning of a text is left out, by `Expansion.Overlap`.
- `Expansion.expand_eq_ok`: an insertion can be written out unless its indentation has no room.
-/

namespace CodeKeyboard

theorem Text.exists_lines_eq_cons (s : Text) : ∃ first rest, Text.lines s = first :: rest :=
  List.exists_cons_of_ne_nil (List.splitOn_ne_nil '\n' s)

namespace Expansion

open Text Pattern

variable {language : Language} {button : Button} {context : Context} {inserted : Insertion}
  {rule : Rule}

/-! ## First come, first served -/

/-- The rules that a language has for itself. -/
def ownRules (language : Language) : List Rule :=
  (languageRules.lookup language.key).getD []

/-- The rules of all languages that change nothing after the first line of a text. -/
def firstLineRules (language : Language) : List Rule :=
  [withoutTyped, withoutSpace, withSpace language]

theorem rules_eq (language : Language) :
    rules language = ownRules language ++ (firstLineRules language ++ [indentedLines]) :=
  rfl

/-- None of the rules applies. -/
def Silent (rules : List Rule) (button : Button) (context : Context) : Prop :=
  ∀ rule ∈ rules, rule button context = none

instance decidableSilent (rules : List Rule) (button : Button) (context : Context) :
    Decidable (Silent rules button context) :=
  inferInstanceAs (Decidable (∀ rule ∈ rules, rule button context = none))

/-- Where the rules of the language are silent the rules of all languages decide. -/
theorem insertion_of_silent_ownRules (hown : Silent (ownRules language) button context) :
    insertion language button context =
      ((commonRules language).findSome? fun rule => rule button context).getD
        (.plain button.text) := by
  have hrules : rules language = ownRules language ++ commonRules language := rfl
  rw [insertion, hrules, List.findSome?_append, List.findSome?_eq_none_iff.2 hown, Option.none_or]

/-- Where all the others are silent the rule for further lines is asked. -/
theorem insertion_of_silent (hown : Silent (ownRules language) button context)
    (hfirst : Silent (firstLineRules language) button context) :
    insertion language button context =
      (indentedLines button context).getD (.plain button.text) := by
  have hcommon : commonRules language = firstLineRules language ++ [indentedLines] := rfl
  rw [insertion_of_silent_ownRules hown, hcommon, List.findSome?_append,
    List.findSome?_eq_none_iff.2 hfirst, Option.none_or, List.findSome?_cons, List.findSome?_nil]
  cases indentedLines button context <;> rfl

/-- **Which rule an insertion comes from**: one of the language, or one for the first line, or,
where all of these are silent, the one for further lines, if it applies. -/
theorem insertion_cases (language : Language) (button : Button) (context : Context) :
    (∃ rule ∈ ownRules language, rule button context = some (insertion language button context)) ∨
      Silent (ownRules language) button context ∧
        ((∃ rule ∈ firstLineRules language,
            rule button context = some (insertion language button context)) ∨
          Silent (firstLineRules language) button context ∧
            insertion language button context =
              (indentedLines button context).getD (.plain button.text)) := by
  cases hown : (ownRules language).findSome? (fun rule => rule button context) with
  | some inserted =>
    left
    rw [insertion, rules_eq, List.findSome?_append, hown]
    exact List.exists_of_findSome?_eq_some hown
  | none =>
    have hownSilent : Silent (ownRules language) button context := List.findSome?_eq_none_iff.1 hown
    refine .inr ⟨hownSilent, ?_⟩
    cases hfirst : (firstLineRules language).findSome? (fun rule => rule button context) with
    | some inserted =>
      left
      rw [insertion, rules_eq, List.findSome?_append, List.findSome?_append, hown, hfirst]
      exact List.exists_of_findSome?_eq_some hfirst
    | none =>
      have hfirstSilent : Silent (firstLineRules language) button context :=
        List.findSome?_eq_none_iff.1 hfirst
      exact .inr ⟨hfirstSilent, insertion_of_silent hownSilent hfirstSilent⟩

/-! ## The rules of a language -/

/-- Two rules that never apply to the same button. -/
def Apart (first second : Rule) : Prop :=
  ∀ button context, first button context = none ∨ second button context = none

theorem membership_of_label_ne {label : Text} (h : button.label ≠ label) (loop : Pattern)
    (context : Context) : membership label loop button context = none := by
  simp [membership, h]

theorem blockOpener_of_label_ne {label : Text} (h : button.label ≠ label) (header : Pattern)
    (context : Context) : blockOpener label header button context = none := by
  simp [blockOpener, h]

/-- A loop word and a block opener are apart when they are different labels. -/
theorem apart_membership_blockOpener {word opener : Text} (h : word ≠ opener)
    (loop header : Pattern) : Apart (membership word loop) (blockOpener opener header) := by
  intro button context
  by_cases hword : button.label = word
  · right
    exact blockOpener_of_label_ne (fun hopener => h (hword.symm.trans hopener)) header context
  · left
    exact membership_of_label_ne hword loop context

theorem Apart.symm {first second : Rule} (h : Apart first second) : Apart second first :=
  fun button context => (h button context).symm

/-- The rules of a language are for different labels. -/
theorem pairwise_apart_of_mem_languageRules :
    ∀ entry ∈ languageRules, entry.2.Pairwise Apart := by
  -- no list has more than a loop word and a block opener, in either order
  have hcolon : [membership "in" bareLoop, blockOpener ":" colonHeader].Pairwise Apart :=
    List.pairwise_pair.2 (apart_membership_blockOpener (by decide) _ _)
  have htyped : [blockOpener "\x7b" braceHeader, membership "in" typedLoop].Pairwise Apart :=
    List.pairwise_pair.2 (apart_membership_blockOpener (by decide) _ _).symm
  have hsigil : [blockOpener "\x7b" braceHeader, membership "as" sigilLoop].Pairwise Apart :=
    List.pairwise_pair.2 (apart_membership_blockOpener (by decide) _ _).symm
  have hbare : [membership "in" bareLoop, blockOpener "\x7b" rustHeader].Pairwise Apart :=
    List.pairwise_pair.2 (apart_membership_blockOpener (by decide) _ _)
  have hone (rule : Rule) : [rule].Pairwise Apart := List.pairwise_singleton Apart rule
  simp only [languageRules, List.forall_mem_cons, hone, hcolon, htyped, hsigil, hbare, true_and]
  exact fun _ h => absurd h List.not_mem_nil

/-- A rule of a language stands in one of the lists. -/
theorem exists_of_mem_ownRules (h : rule ∈ ownRules language) :
    ∃ entry ∈ languageRules, ownRules language = entry.2 := by
  unfold ownRules at h ⊢
  cases hrules : languageRules.lookup language.key with
  | none =>
    rw [hrules] at h
    cases h
  | some rules => exact ⟨(language.key, rules), Assoc.mem_of_lookup hrules, rfl⟩

/-- The words between the variable of a loop and what it runs over. -/
def loopWords : List Text := ["in", "as"]

/-- The loops that such a word goes on with. -/
def loops : List Pattern := [bareLoop, typedLoop, sigilLoop]

/-- The labels that open a block. -/
def openers : List Text := [":", "\x7b"]

/-- The headers of the blocks. -/
def headers : List Pattern := [colonHeader, braceHeader, goHeader, rustHeader]

/-- The two forms of such rules. -/
inductive OwnRule : Rule → Prop
  | loopWord {label : Text} {loop : Pattern} (hlabel : label ∈ loopWords) (hloop : loop ∈ loops) :
      OwnRule (membership label loop)
  | opener {label : Text} {header : Pattern} (hlabel : label ∈ openers)
      (hheader : header ∈ headers) : OwnRule (blockOpener label header)

theorem ownRule_of_mem (h : rule ∈ ownRules language) : OwnRule rule := by
  have hcolon : OwnRule (blockOpener ":" colonHeader) := .opener (by decide) (by decide)
  have hbrace : OwnRule (blockOpener "\x7b" braceHeader) := .opener (by decide) (by decide)
  have hgo : OwnRule (blockOpener "\x7b" goHeader) := .opener (by decide) (by decide)
  have hrust : OwnRule (blockOpener "\x7b" rustHeader) := .opener (by decide) (by decide)
  have hbare : OwnRule (membership "in" bareLoop) := .loopWord (by decide) (by decide)
  have htyped : OwnRule (membership "in" typedLoop) := .loopWord (by decide) (by decide)
  have hsigil : OwnRule (membership "as" sigilLoop) := .loopWord (by decide) (by decide)
  have hforms : ∀ entry ∈ languageRules, ∀ rule ∈ entry.2, OwnRule rule := by
    simp only [languageRules, List.forall_mem_cons, hcolon, hbrace, hgo, hrust, hbare, htyped,
      hsigil, true_and]
    simp
  obtain ⟨entry, hentry, hrules⟩ := exists_of_mem_ownRules h
  rw [hrules] at h
  exact hforms entry hentry rule h

/-- Of rules that are apart the one that applies is the first that does. -/
theorem findSome?_of_apart {rules : List Rule} (hapart : rules.Pairwise Apart)
    (hrule : rule ∈ rules) (happlies : rule button context = some inserted) :
    rules.findSome? (fun rule => rule button context) = some inserted := by
  induction rules with
  | nil => cases hrule
  | cons first rules ih =>
    rw [List.pairwise_cons] at hapart
    rcases List.mem_cons.1 hrule with rfl | hlater
    · rw [List.findSome?_cons, happlies]
    · -- the first one cannot apply as well
      have hsilent : first button context = none := by
        rcases hapart.1 rule hlater button context with h | h
        · exact h
        · rw [happlies] at h
          cases h
      rw [List.findSome?_cons, hsilent]
      exact ih hapart.2 hlater

/-- **A rule of the language that applies decides.** -/
theorem insertion_of_mem_ownRules (hrule : rule ∈ ownRules language)
    (happlies : rule button context = some inserted) :
    insertion language button context = inserted := by
  obtain ⟨entry, hentry, hrules⟩ := exists_of_mem_ownRules hrule
  have hapart : (ownRules language).Pairwise Apart := by
    rw [hrules]
    exact pairwise_apart_of_mem_languageRules entry hentry
  rw [insertion, rules_eq, List.findSome?_append, findSome?_of_apart hapart hrule happlies,
    Option.some_or, Option.getD_some]

/-! ## What the rules insert -/

/-- A text with a space at its end. -/
def closedBySpace (text : Text) : Text :=
  if [' '].isSuffixOf text then text else text ++ [' ']

theorem eq_of_membership {label : Text} {loop : Pattern}
    (h : membership label loop button context = some inserted) :
    inserted = .plain (' ' :: trimStart (closedBySpace button.text)) := by
  simp only [membership, Option.ite_none_right_eq_some, Option.some.injEq] at h
  exact h.2.symm

theorem eq_of_blockOpener {label : Text} {header : Pattern}
    (h : blockOpener label header button context = some inserted) :
    inserted =
      ⟨openerLead label context.line ++ button.text ++ ['\n'], nextIndent context⟩ := by
  simp only [blockOpener, Option.ite_none_right_eq_some, Option.some.injEq] at h
  exact h.2.symm

/-- A proper beginning of a text, by its length, that ends in a dot. -/
structure Dotted (text : Text) (length : Nat) : Prop where
  pos : 0 < length
  lt : length < text.length
  dotted : (text.take length).getLast? = some '.'

/-- **A dotted beginning of a text that is typed already**: the line ends in it. -/
structure Overlap (text line : Text) (length : Nat) : Prop extends Dotted text length where
  typed : text.take length <:+ line

/-- The search from the longest beginning down finds the greatest length that passes. -/
theorem find?_reverse_range_eq_some_iff {p : Nat → Bool} {n k : Nat} :
    (List.range n).reverse.find? p = some k ↔ IsGreatest {j | j < n ∧ p j = true} k := by
  induction n with
  | zero => simp [IsGreatest]
  | succ n ih =>
    rw [List.range_succ, List.reverse_append, List.reverse_singleton, List.singleton_append]
    by_cases hn : p n = true
    · -- the longest one passes
      rw [List.find?_cons_of_pos hn]
      have hgreatest : IsGreatest {j | j < n + 1 ∧ p j = true} n :=
        ⟨⟨Nat.lt_succ_self n, hn⟩, fun j hj => Nat.le_of_lt_succ hj.1⟩
      constructor
      · rintro h
        obtain rfl := Option.some.inj h
        exact hgreatest
      · intro h
        rw [hgreatest.unique h]
    · -- it does not, and the others are those below it
      rw [List.find?_cons_of_neg hn, ih]
      have hsame : {j | j < n + 1 ∧ p j = true} = {j | j < n ∧ p j = true} := by
        ext j
        constructor
        · rintro ⟨hlt, hj⟩
          refine ⟨Nat.lt_of_le_of_ne (Nat.le_of_lt_succ hlt) ?_, hj⟩
          rintro rfl
          exact hn hj
        · rintro ⟨hlt, hj⟩
          exact ⟨Nat.lt_succ_of_lt hlt, hj⟩
      rw [hsame]

theorem dottedOverlap?_eq_some_iff {text line : Text} {k : Nat} :
    dottedOverlap? text line = some k ↔ IsGreatest {j | Overlap text line j} k := by
  have hsame : {j | j < text.length ∧
      ((text.take j).getLast? == some '.' && (text.take j).isSuffixOf line) = true} =
        {j | Overlap text line j} := by
    ext j
    constructor
    · rintro ⟨hlt, hpasses⟩
      rw [Bool.and_eq_true, beq_iff_eq, List.isSuffixOf_iff_suffix] at hpasses
      refine ⟨⟨Nat.pos_of_ne_zero ?_, hlt, hpasses.1⟩, hpasses.2⟩
      rintro rfl
      cases hpasses.1
    · intro h
      refine ⟨h.lt, ?_⟩
      rw [Bool.and_eq_true, beq_iff_eq, List.isSuffixOf_iff_suffix]
      exact ⟨h.dotted, h.typed⟩
  rw [dottedOverlap?, find?_reverse_range_eq_some_iff, hsame]

/-- **When the beginning of a text is left out**: where the line ends in a dotted beginning, and
then the longest one. -/
theorem withoutTyped_eq_some_iff : withoutTyped button context = some inserted ↔
    ∃ k, IsGreatest {j | Overlap button.text context.line j} k ∧
      inserted = .plain (button.text.drop k) := by
  simp only [withoutTyped, Option.map_eq_some_iff, dottedOverlap?_eq_some_iff,
    eq_comm (a := inserted)]

/-- So it is inserted where no rule of the language applies. -/
theorem insertion_of_overlap (hsilent : Silent (ownRules language) button context) {k : Nat}
    (hk : IsGreatest {j | Overlap button.text context.line j} k) :
    insertion language button context = .plain (button.text.drop k) := by
  rw [insertion_of_silent_ownRules hsilent, commonRules, List.findSome?_cons,
    withoutTyped_eq_some_iff.2 ⟨k, hk, rfl⟩, Option.getD_some]

theorem eq_of_withoutSpace (h : withoutSpace button context = some inserted) :
    inserted = .plain (dropLeading ' ' button.text) := by
  simp only [withoutSpace, Option.ite_none_right_eq_some, Option.some.injEq] at h
  exact h.2.symm

theorem eq_of_withSpace (h : withSpace language button context = some inserted) :
    inserted = .plain (' ' :: button.text) := by
  simp only [withSpace, Option.ite_none_right_eq_some, Option.some.injEq] at h
  exact h.2.symm

/-- The lines of a text with more before each line after the first. -/
def indentFurther (pad text : Text) : Text :=
  ofLines ((lines text).take 1 ++ (lines text).tail.map (pad ++ ·))

/-- The rule for further lines applies where there are some and the line is indented. -/
theorem indentedLines_eq (button : Button) (context : Context) :
    indentedLines button context =
      if '\n' ∈ button.text ∧ context.indentWidth ≠ 0 then
        some (.plain (indentFurther (Offset.before context.line context.indentWidth) button.text))
      else none := by
  obtain ⟨first, rest, hlines⟩ := exists_lines_eq_cons button.text
  simp [indentedLines, indentFurther, hlines]

/-- What stands before the first visible character of a line is its indentation. -/
theorem before_indentWidth (text : Text) (cursor : Int) :
    Offset.before (Context.extract text cursor).line (Context.extract text cursor).indentWidth =
      (Context.extract text cursor).line.indentation := by
  have hprefix : (Context.extract text cursor).line.indentation <+:
      (Context.extract text cursor).line := List.takeWhile_prefix isBlank
  calc
    Offset.before (Context.extract text cursor).line (Context.extract text cursor).indentWidth =
        (Context.extract text cursor).line.take
          (Context.extract text cursor).line.indentation.length := Offset.before_ofNat _ _
    _ = (Context.extract text cursor).line.indentation := (List.prefix_iff_eq_take.1 hprefix).symm

/-! ## Writing out -/

/-- The rules of all languages ask for no spaces after the text. -/
theorem spaces_of_commonRules (hrule : rule ∈ commonRules language)
    (h : rule button context = some inserted) : inserted.spaces = 0 := by
  simp only [commonRules, List.mem_cons, List.not_mem_nil, or_false] at hrule
  obtain rfl | rfl | rfl | rfl := hrule
  · obtain ⟨k, -, rfl⟩ := withoutTyped_eq_some_iff.1 h
    rfl
  · rw [eq_of_withoutSpace h]
    rfl
  · rw [eq_of_withSpace h]
    rfl
  · rw [indentedLines_eq] at h
    split at h
    · rw [← Option.some.inj h]
      rfl
    · cases h

/-- An insertion asks for no spaces after its text, or for the next indentation. -/
theorem spaces_insertion (language : Language) (button : Button) (context : Context) :
    (insertion language button context).spaces = 0 ∨
      (insertion language button context).spaces = nextIndent context := by
  rcases insertion_cases language button context with
    ⟨rule, hrule, happlies⟩ | ⟨-, ⟨rule, hrule, happlies⟩ | ⟨-, hlast⟩⟩
  · cases ownRule_of_mem hrule with
    | loopWord =>
      left
      rw [eq_of_membership happlies]
      rfl
    | opener =>
      right
      rw [eq_of_blockOpener happlies]
  · left
    exact spaces_of_commonRules (List.mem_append_left [indentedLines] hrule) happlies
  · left
    rw [hlast, indentedLines_eq]
    split <;> rfl

/-- **An insertion can be written out unless its indentation has no room.** -/
theorem expand_eq_ok (language : Language) (button : Button) (hindent : 0 ≤ context.indentWidth)
    (hwidth : nextIndent context ≤ Insertion.widest) :
    expand language button context = .ok (insertion language button context).chars := by
  have hnext : 0 ≤ nextIndent context := by
    rw [nextIndent, indentStep]
    omega
  -- what has no spaces after it has room at any indentation
  rcases spaces_insertion language button context with h | h
  · refine Insertion.write_of_le ?_ ?_ <;> rw [h]
    decide
  · refine Insertion.write_of_le ?_ ?_ <;> rw [h]
    · exact hnext
    · exact hwidth

/-- What is written out is the characters of the insertion. -/
theorem eq_chars_of_expand {result : Text} (h : expand language button context = .ok result) :
    result = (insertion language button context).chars := by
  unfold expand Insertion.write at h
  split at h
  · cases h
  · split at h
    · cases h
    · exact (Except.ok.inj h).symm

end Expansion

end CodeKeyboard
