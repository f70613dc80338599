import CodeKeyboard.Proofs.CurrentLine
import CodeKeyboard.Proofs.Indentation
import CodeKeyboard.Proofs.Ranking

/-!
# Predictions do not depend on the indentation

A line gets the same suggestions at every depth. Each rule is a cascade of tests of the line, and
each test ignores the indentation: the patterns because they begin with blanks or with any text and
go on visibly, the tests of the end of a line because no blank passes them, the call in progress
because its offsets move as a whole. The words that a dialect brings into the patterns must begin
visibly too (`Dialect.wordsVisible`), which is checked for the built-in dialects once.

- `Dialect.rule_ignoresIndent`: every rule of such a dialect ignores the indentation.
- `Cascade.suggestions_ignoresIndent`: so do the suggestions of every language.
- `Prediction.rank_indented`: so an indented line gets the same predictions.
-/

namespace CodeKeyboard

open Text Pattern

/-! ## Phrases -/

namespace Phrase

theorem endsValue_of_isBlank {c : Char} (hc : isBlank c = true) : endsValue c = false := by
  rw [endsValue, isWord_of_isBlank hc, Bool.false_or, decide_eq_false_iff_not]
  exact not_mem_of_allVisible (by decide) hc

/-- Whether a line ends in a value is a question about its last character, which a blank cannot
answer. -/
theorem endsInValue_ignoresIndent : IgnoresIndent endsInValue :=
  getLast?_any_ignoresIndent fun _ => endsValue_of_isBlank

/-- So is whether it ends in one of some visible characters. -/
theorem endsInOneOf_ignoresIndent {chars : Text} (h : chars.allVisible = true) :
    IgnoresIndent (endsInOneOf chars) :=
  getLast?_any_ignoresIndent fun _ hc => decide_eq_false (not_mem_of_allVisible h hc)

end Phrase

/-- Whether anything is left of a line without the blanks at its end. -/
theorem trimEnd_isEmpty_ignoresIndent : IgnoresIndent fun line => line.trimEnd.isEmpty := by
  intro c line hc
  obtain ⟨hempty, hempty'⟩ | ⟨hne, hcons⟩ := trimEnd_cons_of_isBlank hc line
  · simp only [hempty, hempty']
  · simp only [hcons, List.isEmpty_cons, List.isEmpty_eq_false_iff.2 hne]

/-- The call in progress moves with the indentation, but there still is one. -/
theorem openCall_isSome_ignoresIndent : IgnoresIndent fun line => (Bracket.openCall line).isSome :=
  Bracket.openCall_ignoresIndent.comp Option.isSome

/-! ## Patterns with words -/

namespace Pattern

/-- A sequence begins as its first part does, or as the next one where the first may be empty. -/
theorem startsIn_chain_cons (check : CharClass → Bool) (p : Pattern) (ps : List Pattern) :
    (chain (p :: ps)).startsIn check =
      (p.startsIn check && (!p.acceptsEmpty || (chain ps).startsIn check)) := by
  cases ps with
  | nil => simp [chain, startsIn]
  | cons q ps => rfl

theorem acceptsEmpty_chain_cons (p : Pattern) (ps : List Pattern) :
    (chain (p :: ps)).acceptsEmpty = (p.acceptsEmpty && (chain ps).acceptsEmpty) := by
  cases ps with
  | nil => simp [chain, acceptsEmpty]
  | cons q ps => rfl

/-- A choice begins as all of its patterns do. -/
theorem startsIn_choice (check : CharClass → Bool) (ps : List Pattern) :
    (choice ps).startsIn check = ps.all (startsIn check) := by
  induction ps with
  | nil => rfl
  | cons p ps ih =>
    cases ps with
    | nil => simp [choice]
    | cons q ps =>
      show (p.startsIn check && (choice (q :: ps)).startsIn check) = _
      rw [ih]
      rfl

variable {words : List Text}

/-- Words that begin visibly, as a pattern. -/
theorem startsIn_oneOfTexts (h : words.all beginsVisibly = true) :
    (oneOfTexts words).startsIn CharClass.isVisible = true := by
  rw [oneOfTexts, startsIn_choice, List.all_map, List.all_eq_true]
  intro word hword
  have hbegins := List.all_eq_true.1 h word hword
  cases word with
  | nil => cases hbegins
  | cons c word =>
    rw [Function.comp_apply, text, List.map_cons, startsIn_chain_cons]
    simpa [startsIn, acceptsEmpty, CharClass.isVisible, beginsVisibly] using hbegins

/-- Such words are not empty. -/
theorem acceptsEmpty_oneOfTexts (h : words.all beginsVisibly = true) :
    (oneOfTexts words).acceptsEmpty = false := by
  rw [Bool.eq_false_iff, ne_eq, acceptsEmpty_iff, matches_oneOfTexts]
  intro hempty
  cases List.all_eq_true.1 h [] hempty

/-- One of the words after a part that begins visibly, or is empty. -/
theorem startsIn_chain_words {lead : Pattern} (hlead : lead.startsIn CharClass.isVisible = true)
    (h : words.all beginsVisibly = true) (ps : List Pattern) :
    (chain (lead :: oneOfTexts words :: ps)).startsIn CharClass.isVisible = true := by
  rw [startsIn_chain_cons, startsIn_chain_cons, startsIn_oneOfTexts h, acceptsEmpty_oneOfTexts h,
    hlead]
  simp

end Pattern

/-! ## Rules about calls -/

namespace Dialect

/-- The words that a dialect looks for begin visibly, and the beginnings of dotted names hold no
blank. -/
def wordsVisible (dialect : Dialect) : Bool :=
  (dialect.typeWords.all beginsVisibly && dialect.functionWords.all beginsVisibly) &&
    (dialect.streams.all beginsVisibly && dialect.callables.all beginsVisibly) &&
    dialect.memberChains.all fun chain => chain.1.allVisible

/-- The name and the arguments of the call in progress are the same at every depth. -/
theorem closeCall_ignoresIndent (dialect : Dialect) (skip : List Text) :
    IgnoresIndent (dialect.closeCall skip) := by
  intro c line hc
  simp only [closeCall, Bracket.openCall_ignoresIndent c line hc]

/-- What stands before the ending of a line is as before, or a blank where there was nothing. -/
theorem endsInWhole_ignoresIndent {ending : Text} (h : ending.allVisible = true) :
    IgnoresIndent (endsInWhole ending) := by
  intro c line hc
  rw [endsInWhole, endsInWhole, isSuffixOf_ignoresIndent h c line hc]
  by_cases hsuffix : ending.isSuffixOf line = true
  · -- the part before the ending is the only one that the blank is put in front of
    have hlength : ending.length ≤ line.length := (List.isSuffixOf_iff_suffix.1 hsuffix).length_le
    have htake : (c :: line).length - ending.length = line.length - ending.length + 1 := by
      rw [List.length_cons]
      omega
    rw [htake, List.take_succ_cons]
    have hlast := getLast?_any_ignoresIndent (fun _ => isAlphanumeric_of_isBlank) c
      (line.take (line.length - ending.length)) hc
    dsimp only at hlast
    rw [hlast]
  · rw [Bool.not_eq_true] at hsuffix
    rw [hsuffix, Bool.false_and, Bool.false_and]

variable {dialect : Dialect}

/-- A dotted name is looked for at the end of the line. -/
theorem memberChain_ignoresIndent (h : dialect.wordsVisible = true) :
    IgnoresIndent dialect.memberChain := by
  intro c line hc
  rw [wordsVisible, Bool.and_eq_true] at h
  have hfind : (dialect.memberChains.find? fun chain => endsInWhole chain.1 (c :: line)) =
      dialect.memberChains.find? fun chain => endsInWhole chain.1 line := by
    rw [← List.head?_filter, ← List.head?_filter]
    refine congrArg List.head? (List.filter_congr fun chain hchain => ?_)
    exact endsInWhole_ignoresIndent (List.all_eq_true.1 h.2 chain hchain) c line hc
  simp only [memberChain, hfind]

/-- The name of something that is called stands after a blank or a sign, or begins the line. -/
theorem callableAtEnd_ignoresIndent (h : dialect.wordsVisible = true) :
    IgnoresIndent dialect.callableAtEnd := by
  simp only [wordsVisible, Bool.and_eq_true] at h
  -- the name is looked for anywhere, after a blank or a sign
  have hpattern : IgnoresIndent dialect.callableEnd.accepts := by
    refine .seq (.lead fun c hc => ?_) ?_
    · rw [CharClass.plus, CharClass.contains_either, CharClass.contains_blank, hc, Bool.true_or]
    · rw [startsIn_chain_cons, startsIn_oneOfTexts h.1.2.2, acceptsEmpty_oneOfTexts h.1.2.2]
      rfl
  exact .ite hpattern (.const _) (.const _)

theorem chainOrCall_ignoresIndent (h : dialect.wordsVisible = true) :
    IgnoresIndent dialect.chainOrCall := by
  intro c line hc
  simp only [chainOrCall, memberChain_ignoresIndent h c line hc,
    callableAtEnd_ignoresIndent h c line hc]

end Dialect

/-! ## Indented blocks -/

namespace Indented

open Phrase

theorem loopRule_ignoresIndent : IgnoresIndent loopRule := by
  unfold loopRule
  refine .ite (.indented (by decide)) (.const _) ?_
  refine .ite (.indented (by decide)) (.const _) ?_
  refine .ite (.indented (by decide)) (.const _) ?_
  exact .ite (.indented (by decide)) (.const _) (.const _)

/-- The words that end a header are visible, and a value that ends one is never a blank. -/
theorem isHeader_ignoresIndent : IgnoresIndent isHeader := by
  unfold isHeader
  refine .or (.or (.or (.or (.indented (by decide)) (.indented (by decide))) ?_) ?_) ?_
  · exact .indented (by decide)
  · exact .indented (by decide)
  · exact .and (.or (.indented (by decide)) (.indented (by decide))) endsInValue_ignoresIndent

/-- What is asked after the first question is asked of the line without the blanks at its end. -/
theorem terminatorRule_ignoresIndent : IgnoresIndent terminatorRule := by
  unfold terminatorRule
  refine .ite (.or (.or trimEnd_isEmpty_ignoresIndent ?_) ?_) (.const _) ?_
  · exact (endsInOneOf_ignoresIndent (by decide)).trimEnd
  · exact openCall_isSome_ignoresIndent.trimEnd
  · exact .ite isHeader_ignoresIndent.trimEnd (.const _) (.const _)

/-- The name that is declared is trimmed before it is looked up. -/
theorem declarationRule_ignoresIndent (reserved : Text → Bool) :
    IgnoresIndent (declarationRule reserved) := by
  unfold declarationRule
  refine .ite (.indented (by decide)) (.const _) ?_
  refine .ite (.and (.indented (by decide)) ?_) (.const _) (.const _)
  exact trim_ignoresIndent.comp fun name => !reserved name

end Indented

/-! ## Braces and headers in parentheses -/

namespace Braced

open Phrase

variable {dialect : Dialect}

/-- The words of the dialect are not in these patterns; it only decides whether they are asked. -/
theorem loopRule_ignoresIndent (dialect : Dialect) : IgnoresIndent (loopRule dialect) := by
  unfold loopRule
  refine .ite (.indented (by decide)) (.const _) ?_
  refine .ite (.indented (by decide)) (.const _) ?_
  refine .ite (.indented (by decide)) (.const _) ?_
  refine .ite (.and (.indented (by decide)) endsInValue_ignoresIndent.trimEnd) (.const _) ?_
  refine .ite (.indented (by decide)) (.const _) ?_
  refine .ite (.indented (by decide)) (.const _) ?_
  refine .ite (.and (.const _) (.indented (by decide))) (.const _) ?_
  exact .ite (.and (.const _) (.indented (by decide))) (.const _) (.const _)

theorem returning_ignoresIndent : IgnoresIndent returning.accepts :=
  .indented (by decide)

/-- The words of the dialect that begin a header begin visibly. -/
theorem isHeader_ignoresIndent (h : dialect.wordsVisible = true) :
    IgnoresIndent (isHeader dialect) := by
  simp only [Dialect.wordsVisible, Bool.and_eq_true] at h
  have hwords : (headWords dialect).all beginsVisibly = true := by
    rw [headWords, List.all_append, h.1.1.2, h.1.1.1]
    rfl
  unfold isHeader
  refine .or (.or (.indented (by decide)) (.indented (by decide))) (.and (.indented ?_) ?_)
  · exact startsIn_chain_words (by decide) hwords _
  · exact returning_ignoresIndent.comp (! ·)

/-- Before the sign of an assignment may stand whatever is no sign itself, and a blank is none. -/
theorem assignment_ignoresIndent : IgnoresIndent assignment.accepts := by
  refine .seq (.lead fun c hc => ?_) (by decide)
  have hnot : c ∉ "=!<>".toList := not_mem_of_allVisible (by decide) hc
  simpa using hnot

/-- The sign of a stream that comes next is the one that is on the line already. -/
theorem statementEnd_ignoresIndent (h : dialect.wordsVisible = true) :
    IgnoresIndent (statementEnd dialect) := by
  simp only [Dialect.wordsVisible, Bool.and_eq_true] at h
  unfold statementEnd
  refine .ite (.or (.or (.indented (by decide)) ?_) ?_) (.const _) ?_
  · exact isSuffixOf_ignoresIndent (by decide)
  · exact isSuffixOf_ignoresIndent (by decide)
  refine .ite (.and returning_ignoresIndent ?_) (.const _) ?_
  · exact trim_ignoresIndent.comp fun s => s != "return".toList
  refine .ite (.indented ?_) ?_ ?_
  · exact startsIn_chain_words (by decide) h.1.2.1 _
  · have hsign : IgnoresIndent fun s => if Text.hasPart "<<" s then ("<<" : Text) else ">>" :=
      .ite (hasPart_ignoresIndent (by decide)) (.const _) (.const _)
    exact hsign.comp fun sign =>
      Assoc.ofPairs [(dialect.endOfStatement, Score.hundredths 90), (sign, Score.hundredths 80)]
  refine .ite (.and assignment_ignoresIndent endsInValue_ignoresIndent) (.const _) ?_
  exact .ite (endsInOneOf_ignoresIndent (by decide)) (.const _) (.const _)

theorem terminatorRule_ignoresIndent (h : dialect.wordsVisible = true) :
    IgnoresIndent (terminatorRule dialect) := by
  unfold terminatorRule
  refine .ite (.or trimEnd_isEmpty_ignoresIndent openCall_isSome_ignoresIndent.trimEnd)
    (.const _) ?_
  refine .ite (isHeader_ignoresIndent h).trimEnd (.const _) ?_
  refine .ite (.or (.const _) ?_) (.const _) (statementEnd_ignoresIndent h).trimEnd
  exact (endsInOneOf_ignoresIndent (by decide)).trimEnd

/-- A part for a declaration: modifiers, a type, and more. -/
theorem startsIn_declaration {words : List Text} (h : words.all beginsVisibly = true)
    (ps : List Pattern) :
    (chain (modifiers :: typeOf words :: ps)).startsIn CharClass.isVisible = true := by
  have hstarts : (typeOf words).startsIn CharClass.isVisible = true := by
    rw [typeOf, startsIn_chain_cons, startsIn_oneOfTexts h, acceptsEmpty_oneOfTexts h]
    rfl
  have hnonempty : (typeOf words).acceptsEmpty = false := by
    rw [typeOf, acceptsEmpty_chain_cons, acceptsEmpty_oneOfTexts h]
    rfl
  have hmodifiers : modifiers.startsIn CharClass.isVisible = true := by decide
  rw [startsIn_chain_cons, startsIn_chain_cons, hstarts, hnonempty, hmodifiers]
  simp

theorem declarationRule_ignoresIndent (h : dialect.wordsVisible = true) (reserved : Text → Bool) :
    IgnoresIndent (declarationRule dialect reserved) := by
  simp only [Dialect.wordsVisible, Bool.and_eq_true] at h
  unfold declarationRule
  refine .ite (.and (.const _) (.indented (by decide))) (.const _) ?_
  refine .ite (.and (.const _) (.indented (by decide))) (.const _) ?_
  refine .ite (.and (.const _) (trim_ignoresIndent.comp (· == dialect.sigil))) (.const _) ?_
  refine .ite (.indented (startsIn_declaration h.1.1.1 _)) (.const _) ?_
  refine .ite (.indented (startsIn_declaration h.1.1.1 _)) (.const _) ?_
  refine .ite (.and (.and (.indented (by decide)) ?_) ?_) (.const _) (.const _)
  · exact trim_ignoresIndent.comp fun word => !reserved word
  · exact trim_ignoresIndent.comp fun word => decide (word ∉ dialect.typeWords)

/-- A dot that opens the members of a container is looked for anywhere in the line. -/
theorem callRule_ignoresIndent (h : dialect.wordsVisible = true) :
    IgnoresIndent (callRule dialect) := by
  unfold callRule
  split
  · exact .ite (.seq .anything (by decide)) (.const _) (.const _)
  · exact Dialect.chainOrCall_ignoresIndent h

end Braced

/-! ## Braces and bare headers -/

namespace GoIdiom

open Phrase

theorem loopRule_ignoresIndent : IgnoresIndent loopRule := by
  unfold loopRule
  refine .ite (.indented (by decide)) (.const _) ?_
  exact .ite (.indented (by decide)) (.const _) (.const _)

theorem isHeader_ignoresIndent : IgnoresIndent isHeader := by
  unfold isHeader
  refine .or (.or (.indented (by decide)) (.indented (by decide))) ?_
  refine .and endsInValue_ignoresIndent (.or (.and (.indented (by decide)) ?_) ?_)
  · exact .or (hasPart_ignoresIndent (by decide)) (hasPart_ignoresIndent (by decide))
  · exact .indented (by decide)

theorem terminatorRule_ignoresIndent : IgnoresIndent terminatorRule := by
  unfold terminatorRule
  refine .ite (.or (.or trimEnd_isEmpty_ignoresIndent ?_) ?_) (.const _) ?_
  · exact (endsInOneOf_ignoresIndent (by decide)).trimEnd
  · exact openCall_isSome_ignoresIndent.trimEnd
  · exact .ite isHeader_ignoresIndent.trimEnd (.const _) (.const _)

/-- The first word of the line is read after its indentation. -/
theorem declarationRule_ignoresIndent (reserved : Text → Bool) :
    IgnoresIndent (declarationRule reserved) := by
  unfold declarationRule
  refine .ite (.indented (by decide)) (.const _) ?_
  refine .ite (.indented (by decide)) (.const _) ?_
  refine .ite (.and (.indented (by decide)) ?_) (.const _) (.const _)
  exact trimStart_ignoresIndent.comp fun line => !reserved (line.takeWhile isWord)

end GoIdiom

namespace RustIdiom

open Phrase

theorem loopRule_ignoresIndent : IgnoresIndent loopRule := by
  unfold loopRule
  refine .ite (.indented (by decide)) (.const _) ?_
  exact .ite (.indented (by decide)) (.const _) (.const _)

theorem isHeader_ignoresIndent : IgnoresIndent isHeader := by
  unfold isHeader
  refine .or (.or (.indented (by decide)) (.indented (by decide))) ?_
  exact .and endsInValue_ignoresIndent (.or (.indented (by decide)) (.indented (by decide)))

theorem isStatement_ignoresIndent : IgnoresIndent isStatement := by
  unfold isStatement
  refine .and endsInValue_ignoresIndent (.or (.or ?_ ?_) ?_)
  · exact .indented (by decide)
  · exact .indented (by decide)
  · exact endsInOneOf_ignoresIndent (by decide)

theorem terminatorRule_ignoresIndent : IgnoresIndent terminatorRule := by
  unfold terminatorRule
  refine .ite (.or (.or trimEnd_isEmpty_ignoresIndent ?_) ?_) (.const _) ?_
  · exact (endsInOneOf_ignoresIndent (by decide)).trimEnd
  · exact openCall_isSome_ignoresIndent.trimEnd
  refine .ite isHeader_ignoresIndent.trimEnd (.const _) ?_
  exact .ite isStatement_ignoresIndent.trimEnd (.const _) (.const _)

theorem declarationRule_ignoresIndent : IgnoresIndent declarationRule := by
  unfold declarationRule
  refine .ite (.indented (by decide)) (.const _) ?_
  refine .ite (.indented (by decide)) (.const _) ?_
  refine .ite (.indented (by decide)) (.const _) ?_
  exact .ite (.indented (by decide)) (.const _) (.const _)

theorem callRule_ignoresIndent : IgnoresIndent callRule := by
  unfold callRule
  refine .ite (.seq (.lead fun c hc => ?_) (by decide)) (.const _) (.const _)
  rw [CharClass.plus, CharClass.contains_either, CharClass.contains_blank, hc, Bool.true_or]

end RustIdiom

/-! ## The cascade of a language -/

namespace Dialect

/-- **Every rule of a dialect ignores the indentation.** -/
theorem rule_ignoresIndent {dialect : Dialect} (h : dialect.wordsVisible = true)
    (reserved : Text → Bool) (name : RuleName) : IgnoresIndent (dialect.rule reserved name) := by
  have hform := dialect.ruleForm reserved name
  generalize dialect.rule reserved name = rule at hform ⊢
  cases hform with
  | plain => exact .const []
  | indentedLoop => exact Indented.loopRule_ignoresIndent
  | bracedLoop => exact Braced.loopRule_ignoresIndent dialect
  | goLoop => exact GoIdiom.loopRule_ignoresIndent
  | rustLoop => exact RustIdiom.loopRule_ignoresIndent
  | iterableCall | openCall => exact closeCall_ignoresIndent dialect _
  | indentedTerminator => exact Indented.terminatorRule_ignoresIndent
  | bracedTerminator => exact Braced.terminatorRule_ignoresIndent h
  | goTerminator => exact GoIdiom.terminatorRule_ignoresIndent
  | rustTerminator => exact RustIdiom.terminatorRule_ignoresIndent
  | indentedDeclaration => exact Indented.declarationRule_ignoresIndent reserved
  | bracedDeclaration => exact Braced.declarationRule_ignoresIndent h reserved
  | goDeclaration => exact GoIdiom.declarationRule_ignoresIndent reserved
  | rustDeclaration => exact RustIdiom.declarationRule_ignoresIndent
  | chainOrCall => exact chainOrCall_ignoresIndent h
  | bracedCall => exact Braced.callRule_ignoresIndent h
  | rustCall => exact RustIdiom.callRule_ignoresIndent
  | memberChain => exact memberChain_ignoresIndent h
  | callableAtEnd => exact callableAtEnd_ignoresIndent h

end Dialect

namespace Cascade

/-- Rules that ignore the indentation make suggestions that do. -/
theorem ignoresIndent_of_rules {cascade : Cascade}
    (h : ∀ rule ∈ cascade.rules, IgnoresIndent rule) : IgnoresIndent cascade.suggestions := by
  obtain ⟨rules⟩ := cascade
  intro c line hc
  rw [suggestions, suggestions]
  -- rule after rule, whatever the ones before have suggested
  generalize ([] : Suggestions) = hits
  induction rules generalizing hits with
  | nil => rfl
  | cons rule rules ih =>
    rw [List.foldl_cons, List.foldl_cons, h rule List.mem_cons_self c line hc]
    exact ih (fun rule hrule => h rule (List.mem_cons_of_mem _ hrule)) _

/-- The built-in dialects are such ones. -/
theorem wordsVisible_of_mem_builtIn :
    ∀ entry ∈ builtIn, entry.2.wordsVisible = true := by
  decide

/-- **The suggestions of every language ignore the indentation.** -/
theorem suggestions_ignoresIndent (key : Text) : IgnoresIndent (forKey key).suggestions := by
  unfold forKey
  split
  · next language dialect hfound =>
    refine ignoresIndent_of_rules fun rule hrule => ?_
    obtain ⟨name, -, rfl⟩ := List.mem_map.1 hrule
    have hvisible := wordsVisible_of_mem_builtIn _ (List.mem_of_find?_eq_some hfound)
    exact Dialect.rule_ignoresIndent hvisible language.isReserved name
  · exact .const []

end Cascade

/-! ## The context and the ranking -/

namespace Context

/-- Indenting the line of a cursor, and the cursor with it, leaves the last word as it is. -/
theorem lastWord_indented {indent line : Text} (hindent : indent.allBlank = true)
    (hnewline : '\n' ∉ indent ++ line) (cursor : Int) :
    (extract (indent ++ line) (indent.length + cursor)).lastWord =
      (extract line cursor).lastWord := by
  have hline : '\n' ∉ line := fun hmem => hnewline (List.mem_append_right _ hmem)
  rw [extract_of_not_mem hnewline, extract_of_not_mem hline]
  dsimp only
  rcases Int.le_total 0 cursor with hpos | hneg
  · have hclamp : clamp (indent ++ line).length (indent.length + cursor) =
        indent.length + clamp line.length cursor := by
      rw [clamp, clamp, List.length_append]
      omega
    rw [hclamp, List.take_length_add_append, lastWordOf_ignoresIndent.append hindent]
  · -- a cursor before the line stands for its beginning, and among the blanks there is no word
    have hclamp : clamp (indent ++ line).length (indent.length + cursor) ≤ indent.length := by
      rw [clamp, List.length_append]
      omega
    have hzero : clamp line.length cursor = 0 := by
      rw [clamp]
      omega
    rw [List.take_append_of_le_length hclamp, hzero, List.take_zero]
    refine lastWordOf_ignoresIndent.of_allBlank ?_
    rw [allBlank, List.all_eq_true] at hindent ⊢
    exact fun c hc => hindent c (List.mem_of_mem_take hc)

end Context

namespace Prediction

/-- Anything may stand before the call that is open. -/
theorem openCallEnd_ignoresIndent : IgnoresIndent openCallEnd.accepts :=
  .seq .anything (by decide)

/-- **Predictions do not depend on the indentation.** For every language, blanks in front of a line
change neither the suggestions for it nor, with the cursor moved along, the buttons that are ranked,
their scores, their reasons, or their order. -/
theorem rank_indented (language : Language) {indent line : Text}
    (hindent : indent.allBlank = true) (hnewline : '\n' ∉ indent ++ line) (cursor : Int)
    (pool : List Button) (limit : Int) :
    rank language (Context.extract (indent ++ line) (indent.length + cursor)) pool limit =
        rank language (Context.extract line cursor) pool limit ∧
      (Cascade.forKey language.key).suggestions (indent ++ line) =
        (Cascade.forKey language.key).suggestions line := by
  have hline : '\n' ∉ line := fun hmem => hnewline (List.mem_append_right _ hmem)
  have hhits := (Cascade.suggestions_ignoresIndent language.key).append hindent line
  refine ⟨?_, hhits⟩
  refine rank_congr (Context.lastWord_indented hindent hnewline cursor) ?_ ?_ ?_ ?_ pool limit
  all_goals rw [Context.extract_of_not_mem hnewline, Context.extract_of_not_mem hline]
  · rw [allBlank, List.all_append]
    rw [allBlank] at hindent
    rw [hindent, Bool.true_and]
    rfl
  · exact Operator.pending?_ignoresIndent.append hindent line
  · exact openCallEnd_ignoresIndent.append hindent line
  · exact hhits

/-- A loop header after a tab and two spaces, at its end, gets the suggestions that it gets without
them. -/
theorem rank_indented_loop_header :
    allBlank "\t  " = true ∧ '\n' ∉ "\t  ".toList ++ "for i in ".toList ∧
      rank .python
          (Context.extract ("\t  ".toList ++ "for i in ".toList) ("\t  ".toList.length + 9))
          (Keyboard.pool Language.python.keyboard) 3 =
        rank .python (Context.extract "for i in " 9) (Keyboard.pool Language.python.keyboard) 3 ∧
      (Cascade.forKey Language.python.key).suggestions ("\t  ".toList ++ "for i in ".toList) =
        (Cascade.forKey Language.python.key).suggestions "for i in " ∧
      ((Cascade.forKey Language.python.key).suggestions "for i in ").map Prod.fst =
        ["range".toList, "enumerate".toList, "zip".toList] := by
  have hindent : allBlank "\t  " = true := by decide
  have hnewline : '\n' ∉ "\t  ".toList ++ "for i in ".toList := by decide
  have hsame := rank_indented .python hindent hnewline 9
    (Keyboard.pool Language.python.keyboard) 3
  exact ⟨hindent, hnewline, hsame.1, hsame.2, by decide +kernel⟩

end Prediction

end CodeKeyboard
