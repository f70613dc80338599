import CodeKeyboard.Proofs.BlockHeaders
import CodeKeyboard.Proofs.ClosingParenthesis

/-!
# A space typed by hand or by the tap

A tap puts a space before an operator after a value, before the word of a loop, and before the brace
of a block. Whoever has typed that space already gets no second one: then other rules decide, which
insert the same without the space. So the code is the same either way.

For an operator and for the word of a loop this is so because the text of the button has one space
at its beginning or none, and a line that ends in a space is no loop any more. For a brace the same
rule decides both times, since a header stays a header with a space after it.

- `Pattern.exists_class_of_endsIn`: a check on what the texts of a pattern end with.
- `Expansion.insertion_after_space`: what is inserted after a space where no rule of the language
  applies.
- `Expansion.insertion_atEnd_of_setOff`: what is inserted at the end of a line that the tap sets off
  with a space is what it inserts after the space, with the space before it.
- `Expansion.space_typed_or_not`: so the code is the same.
-/

namespace CodeKeyboard

open Text Pattern

/-! ## Patterns -/

namespace Pattern

/-- Every text of the pattern that is not empty ends with a character of a class that passes the
check. -/
def endsIn (check : CharClass → Bool) : Pattern → Bool
  | never => true
  | nothing => true
  | one a => check a
  | seq p q => q.endsIn check && (!q.acceptsEmpty || p.endsIn check)
  | alt p q => p.endsIn check && q.endsIn check
  | many p => p.endsIn check

/-- **What the check means** for a text of the pattern. -/
theorem exists_class_of_endsIn {check : CharClass → Bool} {p : Pattern}
    (h : p.endsIn check = true) {s : Text} (hmatch : Matches p s) {c : Char}
    (hlast : s.getLast? = some c) : ∃ a, check a = true ∧ a.contains c = true := by
  induction hmatch with
  | nothing | done => cases hlast
  | @one a d hd =>
    obtain rfl : d = c := by simpa using hlast
    exact ⟨a, h, hd⟩
  | @seq p q s t hp hq ihp ihq =>
    rw [endsIn, Bool.and_eq_true] at h
    rw [List.getLast?_append] at hlast
    cases ht : t.getLast? with
    | some d =>
      rw [ht, Option.some_or] at hlast
      exact ihq h.1 (ht.trans hlast)
    | none =>
      -- the second part is empty, so the character is the first part's
      rw [ht, Option.none_or] at hlast
      obtain rfl := List.getLast?_eq_none_iff.1 ht
      have hp : p.endsIn check = true := by simpa [acceptsEmpty_iff.2 hq] using h.2
      exact ihp hp hlast
  | left _ ih =>
    rw [endsIn, Bool.and_eq_true] at h
    exact ih h.1 hlast
  | right _ ih =>
    rw [endsIn, Bool.and_eq_true] at h
    exact ih h.2 hlast
  | @more p s t hp hm ihp ihm =>
    rw [List.getLast?_append] at hlast
    cases ht : t.getLast? with
    | some d =>
      rw [ht, Option.some_or] at hlast
      exact ihm h (ht.trans hlast)
    | none =>
      rw [ht, Option.none_or] at hlast
      exact ihp h hlast

/-- No text of a pattern ends in a character that none of its last classes has. -/
theorem accepts_append_singleton_eq_false {p : Pattern} {c : Char}
    (h : p.endsIn (fun a => !a.contains c) = true) (s : Text) : p.accepts (s ++ [c]) = false := by
  rw [Bool.eq_false_iff]
  intro haccepts
  obtain ⟨a, hcheck, ha⟩ := exists_class_of_endsIn h (accepts_iff.1 haccepts) List.getLast?_concat
  rw [ha] at hcheck
  cases hcheck

end Pattern

/-! ## The end of a line -/

namespace Text

variable {s : Text}

/-- What is typed after something visible does not change the indentation. -/
theorem indentation_append {c : Char} (hlast : s.getLast? = some c) (hc : isBlank c = false)
    (t : Text) : indentation (s ++ t) = indentation s := by
  obtain ⟨front, rfl⟩ := List.getLast?_eq_some_iff.1 hlast
  have hstop (rest : Text) :
      (front ++ c :: rest).takeWhile isBlank = (front ++ [c]).takeWhile isBlank := by
    simp [List.takeWhile_append, hc]
  rw [indentation, indentation, List.append_assoc, List.singleton_append, hstop]

end Text

namespace Context

/-- The line at the end of a text is what stands after its last newline. -/
theorem line_atEnd (text : Text) :
    (atEnd text).line = (text.reverse.takeWhile (· != '\n')).reverse := by
  simp [atEnd, extract, clamp, lineBefore, lineAfter]

theorem line_atEnd_append {c : Char} (hc : c ≠ '\n') (text : Text) :
    (atEnd (text ++ [c])).line = (atEnd text).line ++ [c] := by
  rw [line_atEnd, line_atEnd, List.reverse_append, List.reverse_singleton, List.singleton_append,
    List.takeWhile_cons_of_pos (by simpa using hc), List.reverse_cons]

end Context

namespace Bracket

/-- A blank at the end of a line opens and closes nothing. -/
theorem unclosed_append_blank {c : Char} (hc : isBlank c = true) (line : Text) :
    unclosed (line ++ [c]) = unclosed line := by
  rw [unclosed, openFrom_concat, unclosed]
  cases quoteFrom none none line with
  | some quote => rfl
  | none => simp only [stackAfter, opened?_of_isBlank hc, closed?_of_isBlank hc]

end Bracket

namespace Expansion

open Context

variable {language : Language} {button : Button} {context : Context} {inserted : Insertion}
  {rule : Rule} {line text : Text}

/-- An insertion with a space before it. -/
def Insertion.afterSpace (inserted : Insertion) : Insertion :=
  ⟨' ' :: inserted.text, inserted.spaces⟩

@[simp] theorem Insertion.afterSpace_plain (text : Text) :
    (plain text).afterSpace = plain (' ' :: text) :=
  rfl

theorem Insertion.write_afterSpace (inserted : Insertion) :
    inserted.afterSpace.write = inserted.write.map (' ' :: ·) := by
  have hchars : inserted.afterSpace.chars = ' ' :: inserted.chars := rfl
  have hspaces : inserted.afterSpace.spaces = inserted.spaces := rfl
  rw [write, write, hspaces, hchars]
  split
  · rfl
  · split <;> rfl

/-! ## After a space -/

/-- No beginning is typed already where the line does not end in a dot. -/
theorem withoutTyped_eq_none (h : context.line.getLast? ≠ some '.') :
    withoutTyped button context = none := by
  rw [Option.eq_none_iff_forall_ne_some]
  intro inserted happlies
  obtain ⟨k, hk, -⟩ := withoutTyped_eq_some_iff.1 happlies
  obtain ⟨front, hfront⟩ := hk.1.typed
  refine h ?_
  rw [← hfront, List.getLast?_append, hk.1.dotted, Option.some_or]

theorem indentedLines_eq_none (h : '\n' ∉ button.text) : indentedLines button context = none := by
  rw [indentedLines_eq, if_neg fun hlines => h hlines.1]

/-- **After a space a text of one line is inserted without its leading spaces**, where no rule of
the language applies. -/
theorem insertion_after_space (hown : Silent (ownRules language) button context)
    (hline : '\n' ∉ button.text) (hspace : context.line.getLast? = some ' ') :
    insertion language button context = .plain (dropLeading ' ' button.text) := by
  have htyped : withoutTyped button context = none :=
    withoutTyped_eq_none (by rw [hspace]; decide)
  have hoperator : withSpace language button context = none := by
    have hend : endsOperand ' ' = false := by decide
    simp [withSpace, hspace, hend]
  rw [insertion_of_silent_ownRules hown]
  by_cases hhead : button.text.head? = some ' '
  · have hdropped : withoutSpace button context = some (.plain (dropLeading ' ' button.text)) := by
      simp [withoutSpace, hhead, hspace]
    simp [commonRules, htyped, hdropped]
  · have hkept : withoutSpace button context = none := by simp [withoutSpace, hhead]
    simp [commonRules, htyped, hkept, hoperator, indentedLines_eq_none hline,
      dropLeading_of_head? hhead]

/-! ## An operator after a value -/

/-- The text has one space at its beginning or none. -/
def LeadsOnce (text : Text) : Prop :=
  text.head? = some ' ' → text = ' ' :: dropLeading ' ' text

instance decidableLeadsOnce (text : Text) : Decidable (LeadsOnce text) :=
  inferInstanceAs (Decidable (_ → _))

theorem isBlank_of_endsOperand {c : Char} (h : endsOperand c = true) : isBlank c = false := by
  rw [Bool.eq_false_iff]
  intro hblank
  rw [endsOperand, isAlphanumeric_of_isBlank hblank, Bool.false_or, decide_eq_true_eq] at h
  exact not_mem_of_allVisible (by decide) hblank h

/-- After a value the text of an operator is inserted with one space before it. -/
theorem insertion_after_operand (hown : Silent (ownRules language) button context)
    (hoperator : button.label ∈ language.lexicon.operators)
    (hletters : isLetters button.label = false)
    (hline : '\n' ∉ button.text) (hlead : LeadsOnce button.text) {c : Char}
    (hlast : context.line.getLast? = some c) (hc : endsOperand c = true) :
    insertion language button context = .plain (' ' :: dropLeading ' ' button.text) := by
  have htyped : withoutTyped button context = none := by
    refine withoutTyped_eq_none ?_
    rw [hlast]
    rintro ⟨⟩
    exact absurd hc (by decide)
  have hkept : withoutSpace button context = none := by
    simp [withoutSpace, hlast, isBlank_of_endsOperand hc]
  rw [insertion_of_silent_ownRules hown]
  by_cases hhead : button.text.head? = some ' '
  · -- the text begins with the space itself
    have hsilent : withSpace language button context = none := by simp [withSpace, hhead]
    simp [commonRules, htyped, hkept, hsilent, indentedLines_eq_none hline, ← hlead hhead]
  · have hspaced : withSpace language button context = some (.plain (' ' :: button.text)) := by
      simp [withSpace, hoperator, hhead, hletters, hlast, hc]
    simp [commonRules, htyped, hkept, hspaced, dropLeading_of_head? hhead]

/-- No rule of a language is for a button with another label. -/
theorem silent_of_label (hword : button.label ∉ loopWords) (hopener : button.label ∉ openers)
    (context : Context) : Silent (ownRules language) button context := by
  intro rule hrule
  cases ownRule_of_mem hrule with
  | loopWord hlabel =>
    exact membership_of_label_ne (fun h => hword (h ▸ hlabel)) _ context
  | opener hlabel =>
    exact blockOpener_of_label_ne (fun h => hopener (h ▸ hlabel)) _ context

/-! ## The word of a loop -/

/-- A line that ends in a space is not a loop that waits for its word. -/
theorem loop_accepts_append_space :
    ∀ loop ∈ loops, ∀ line : Text, loop.accepts (line ++ [' ']) = false := by
  have hends : ∀ loop ∈ loops, loop.endsIn (fun a => !a.contains ' ') = true := by decide
  exact fun loop hloop line => accepts_append_singleton_eq_false (hends loop hloop) line

/-- So the rules of a language have nothing to say about such a word there. -/
theorem silent_after_space (hword : button.label ∈ loopWords)
    (hspace : context.line = line ++ [' ']) : Silent (ownRules language) button context := by
  have hapart : ∀ label ∈ openers, label ∉ loopWords := by decide
  intro rule hrule
  cases ownRule_of_mem hrule with
  | loopWord hlabel hloop => simp [membership, hspace, loop_accepts_append_space _ hloop]
  | @opener label header hlabel =>
    refine blockOpener_of_label_ne (fun hsame => hapart label hlabel ?_) header context
    rw [← hsame]
    exact hword

theorem nextIndent_atEnd_ne_zero (text : Text) : nextIndent (atEnd text) ≠ 0 := by
  have hwidth : nextIndent (atEnd text) = (atEnd text).line.indentation.length + 4 := rfl
  omega

/-- A rule of a language that asks for no spaces after the text is for the word of a loop. -/
theorem label_mem_loopWords (hrule : rule ∈ ownRules language)
    (happlies : rule button (atEnd text) = some inserted) (hspaces : inserted.spaces = 0) :
    button.label ∈ loopWords := by
  cases ownRule_of_mem hrule with
  | @loopWord label loop hlabel =>
    simp only [membership, Option.ite_none_right_eq_some, Bool.and_eq_true, decide_eq_true_eq]
      at happlies
    rw [happlies.1.1]
    exact hlabel
  | opener =>
    rw [eq_of_blockOpener happlies] at hspaces
    exact absurd hspaces (nextIndent_atEnd_ne_zero text)

/-! ## The brace of a block -/

/-- A header stays a header with blanks after it. -/
theorem header_accepts_append {w : Text} (hw : allBlank w = true) :
    ∀ header ∈ headers, header.accepts line = true → header.accepts (line ++ w) = true := by
  simp only [headers, List.forall_mem_cons]
  refine ⟨fun h => ?_, fun h => ?_, fun h => ?_, fun h => ?_, fun _ h => absurd h List.not_mem_nil⟩
  · exact headedBy_of_indented (fun _ => matches_headed.1) h hw
  · exact braceHeadedBy_of_closed (fun _ => matches_headed.1) h hw
  · exact braceHeadedBy_of_closed (fun _ => matches_headed.1) h hw
  · exact braceHeadedBy_of_closed (fun _ => matches_headed.1) h hw

/-- No header is empty. -/
theorem exists_last_of_header {header : Pattern} (hheader : header ∈ headers)
    (h : header.accepts line = true) : ∃ c, line.getLast? = some c := by
  have hempty : ∀ header ∈ headers, header.accepts [] = false := by decide
  cases hlast : line.getLast? with
  | some c => exact ⟨c, rfl⟩
  | none =>
    rw [List.getLast?_eq_none_iff.1 hlast, hempty header hheader] at h
    cases h

theorem openerLead_of_visible {label : Text} (hlabel : label ≠ ":") {c : Char}
    (hlast : line.getLast? = some c) (hc : isBlank c = false) : openerLead label line = [' '] := by
  have hcolon : decide (label = ":".toList) = false := decide_eq_false hlabel
  rw [openerLead, hcolon, hlast, Option.any_some, hc]
  rfl

theorem openerLead_append_space (label line : Text) : openerLead label (line ++ [' ']) = [] := by
  simp [openerLead]

/-- **The rule for a brace applies after a space as it does before it**, and then it puts no space
before the brace. -/
theorem blockOpener_after_space {label : Text} {header : Pattern} (hheader : header ∈ headers)
    (hlabel : label ≠ ":")
    (hend : ∀ c, (atEnd text).line.getLast? = some c → isBlank c = false)
    (happlies : blockOpener label header button (atEnd text) = some inserted) :
    ∃ after, blockOpener label header button (atEnd (text ++ [' '])) = some after ∧
      inserted = after.afterSpace := by
  have hspace : allBlank [' '] = true := by decide
  have hline : (atEnd (text ++ [' '])).line = (atEnd text).line ++ [' '] :=
    line_atEnd_append (by decide) text
  obtain rfl := eq_of_blockOpener happlies
  simp only [blockOpener, Option.ite_none_right_eq_some, Bool.and_eq_true, decide_eq_true_eq,
    Bracket.innermost?] at happlies
  obtain ⟨⟨⟨⟨hbutton, haccepts⟩, hclosed⟩, hmissing⟩, -⟩ := happlies
  obtain ⟨c, hlast⟩ := exists_last_of_header hheader haccepts
  have hindent : nextIndent (atEnd (text ++ [' '])) = nextIndent (atEnd text) := by
    have hwidth (t : Text) : nextIndent (atEnd t) = (atEnd t).line.indentation.length + 4 := rfl
    rw [hwidth, hwidth, hline, indentation_append hlast (hend c hlast)]
  refine ⟨⟨button.text ++ ['\n'], nextIndent (atEnd text)⟩, ?_, ?_⟩
  · simp [blockOpener, Bracket.innermost?, hline, hindent, hbutton, hclosed, hmissing,
      header_accepts_append hspace header hheader haccepts, trimEnd_append_of_allBlank hspace,
      Bracket.unclosed_append_blank isBlank_space, openerLead_append_space]
  · rw [openerLead_of_visible hlabel hlast (hend c hlast)]
    rfl

/-- So does a rule of a language that asks for spaces after the text: it is for block openers. -/
theorem ownRule_after_space (hrule : rule ∈ ownRules language) (hlabel : button.label ≠ ":")
    (hend : ∀ c, (atEnd text).line.getLast? = some c → isBlank c = false)
    (happlies : rule button (atEnd text) = some inserted) (hspaces : inserted.spaces ≠ 0) :
    ∃ after, rule button (atEnd (text ++ [' '])) = some after ∧ inserted = after.afterSpace := by
  cases ownRule_of_mem hrule with
  | loopWord =>
    rw [eq_of_membership happlies] at hspaces
    exact absurd rfl hspaces
  | @opener label header _ hheader =>
    refine blockOpener_after_space hheader (fun hcolon => ?_) hend happlies
    rw [blockOpener_of_label_ne (hcolon ▸ hlabel)] at happlies
    cases happlies

/-! ## The three places -/

/-- **Where a tap sets off what it inserts** with a space from what the line ends in. -/
inductive SetOff (language : Language) (button : Button) (line : Text) : Prop
  /-- An operator after a value. -/
  | operator (hlabel : button.label ∈ language.lexicon.operators)
      (hend : line.getLast?.any endsOperand = true)
  /-- The word of a loop after its variable. -/
  | loopWord (loop : Pattern) (hrule : membership button.label loop ∈ ownRules language)
      (hloop : loop.accepts line = true)
  /-- The brace of a block after its header. -/
  | brace (header : Pattern) (hlabel : button.label = "\x7b".toList)
      (hrule : blockOpener "\x7b" header ∈ ownRules language)
      (hheader : header.accepts line = true) (hclosed : Bracket.unclosed line = [])
      (hend : ∀ c, line.getLast? = some c → isBlank c = false ∧ c ≠ '{')

/-- At the place of a brace the rule for it applies. -/
theorem blockOpener_of_brace {header : Pattern} (hlabel : button.label = "\x7b".toList)
    (hheader : header.accepts context.line = true) (hclosed : Bracket.unclosed context.line = [])
    (hend : ∀ c, context.line.getLast? = some c → isBlank c = false ∧ c ≠ '{') :
    blockOpener "\x7b" header button context =
      some ⟨openerLead "\x7b" context.line ++ button.text ++ ['\n'], nextIndent context⟩ := by
  have hmissing : "\x7b".toList.isSuffixOf (trimEnd context.line) = false := by
    refine isSuffixOf_singleton_eq_false fun hbrace => ?_
    cases hlast : context.line.getLast? with
    | none =>
      rw [List.getLast?_eq_none_iff.1 hlast] at hbrace
      cases hbrace
    | some c =>
      obtain ⟨hc, hother⟩ := hend c hlast
      rw [trimEnd_of_getLast? hlast hc, hlast] at hbrace
      exact hother (Option.some.inj hbrace)
  have hinnermost : Bracket.innermost? context.line = none := by
    rw [Bracket.innermost?, hclosed]
    rfl
  rw [blockOpener, if_pos]
  rw [hlabel, hheader, hinnermost, hmissing]
  rfl

/-- The texts of the operators on the keyboards are single lines with one leading space or none. -/
theorem operator_of_mem_keyboard : ∀ language ∈ Language.builtIn,
    ∀ button ∈ language.keyboard.buttons, button.label ∈ language.lexicon.operators →
      (button.label ∉ loopWords ∧ button.label ∉ openers) ∧ isLetters button.label = false ∧
        '\n' ∉ button.text ∧ LeadsOnce button.text := by
  decide +kernel

/-- The texts of the loop words on the keyboards are words with a space at the end. -/
theorem loopWord_of_mem_keyboard : ∀ language ∈ Language.builtIn,
    ∀ button ∈ language.keyboard.buttons, button.label ∈ loopWords →
      '\n' ∉ button.text ∧ trimStart (closedBySpace button.text) = dropLeading ' ' button.text := by
  decide +kernel

/-- **What a tap sets off with a space** is what it inserts after the space. -/
theorem insertion_atEnd_of_setOff (hlanguage : language ∈ Language.builtIn)
    (hbutton : button ∈ language.keyboard.buttons)
    (h : SetOff language button (atEnd text).line) :
    insertion language button (atEnd text) =
      (insertion language button (atEnd (text ++ [' ']))).afterSpace := by
  have hline : (atEnd (text ++ [' '])).line = (atEnd text).line ++ [' '] :=
    line_atEnd_append (by decide) text
  have hspace : (atEnd (text ++ [' '])).line.getLast? = some ' ' := by
    rw [hline, List.getLast?_concat]
  cases h with
  | operator hlabel hend =>
    obtain ⟨⟨hword, hopener⟩, hletters, hlines, hlead⟩ :=
      operator_of_mem_keyboard language hlanguage button hbutton hlabel
    obtain ⟨c, hlast, hc⟩ := (Option.any_eq_true _ _).1 hend
    have hsilent : ∀ context, Silent (ownRules language) button context :=
      silent_of_label hword hopener
    rw [insertion_after_operand (hsilent _) hlabel hletters hlines hlead hlast hc,
      insertion_after_space (hsilent _) hlines hspace, Insertion.afterSpace_plain]
  | loopWord loop hrule hloop =>
    have happlies : membership button.label loop button (atEnd text) =
        some (.plain (' ' :: trimStart (closedBySpace button.text))) := by
      simp [membership, hloop, closedBySpace]
    have hword := label_mem_loopWords hrule happlies rfl
    obtain ⟨hlines, htext⟩ := loopWord_of_mem_keyboard language hlanguage button hbutton hword
    rw [insertion_of_mem_ownRules hrule happlies, htext,
      insertion_after_space (silent_after_space hword hline) hlines hspace,
      Insertion.afterSpace_plain]
  | brace header hlabel hrule hheader hclosed hend =>
    have happlies : blockOpener "\x7b" header button (atEnd text) = some
        ⟨openerLead "\x7b" (atEnd text).line ++ button.text ++ ['\n'], nextIndent (atEnd text)⟩ :=
      blockOpener_of_brace hlabel hheader hclosed hend
    have hcolon : button.label ≠ ":" := by
      rw [hlabel]
      decide
    obtain ⟨after, hafter, hinserted⟩ := ownRule_after_space hrule hcolon
      (fun c hc => (hend c hc).1) happlies (nextIndent_atEnd_ne_zero text)
    rw [insertion_of_mem_ownRules hrule happlies, insertion_of_mem_ownRules hrule hafter, hinserted]

/-- Every built-in language but Python has a rule for the brace. -/
theorem exists_brace_iff (hlanguage : language ∈ Language.builtIn) :
    (∃ header, blockOpener "\x7b" header ∈ ownRules language) ↔ language.key ≠ "python" := by
  have hfirst {header : Pattern} {rules : List Rule} :
      ∃ header', blockOpener "\x7b" header' ∈ blockOpener "\x7b" header :: rules :=
    ⟨header, List.mem_cons_self⟩
  simp only [Language.builtIn, List.mem_cons, List.not_mem_nil, or_false] at hlanguage
  obtain rfl | rfl | rfl | rfl | rfl | rfl | rfl | rfl | rfl | rfl := hlanguage
  · -- the rules of Python are for other labels
    refine iff_of_false ?_ (fun h => h rfl)
    rintro ⟨header, hrule⟩
    have hrules : ownRules .python = [membership "in" bareLoop, blockOpener ":" colonHeader] := rfl
    rw [hrules, List.mem_cons, List.mem_singleton] at hrule
    have hother (label line : Text) (hlabel : label ≠ "\x7b".toList) :
        blockOpener "\x7b" header ⟨[], label, []⟩ (atEnd line) = none :=
      blockOpener_of_label_ne hlabel header (atEnd line)
    obtain hword | hcolon := hrule
    · have hsilent := hother "in" "for i" (by decide)
      rw [hword] at hsilent
      exact absurd hsilent (by decide +kernel)
    · have hsilent := hother ":" "else" (by decide)
      rw [hcolon] at hsilent
      exact absurd hsilent (by decide +kernel)
  · exact iff_of_true hfirst (by decide)
  · exact iff_of_true hfirst (by decide)
  · exact iff_of_true hfirst (by decide)
  · exact iff_of_true hfirst (by decide)
  · exact iff_of_true hfirst (by decide)
  · exact iff_of_true hfirst (by decide)
  · exact iff_of_true ⟨rustHeader, List.mem_cons_of_mem _ List.mem_cons_self⟩ (by decide)
  · exact iff_of_true hfirst (by decide)
  · exact iff_of_true hfirst (by decide)

/-- **A space typed by hand or by the tap gives the same code.** At the end of any text, on a line
where a button of a built-in keyboard is set off with a space, the text with what the button inserts
is the text, a space, and what it inserts after that space. Either can be written out as long as
there is room for the indentation. Braces are set off in every built-in language but Python. -/
theorem space_typed_or_not (hlanguage : language ∈ Language.builtIn)
    (hbutton : button ∈ language.keyboard.buttons) (text : Text)
    (h : SetOff language button (atEnd text).line) :
    (expand language button (atEnd text)).map (text ++ ·) =
        (expand language button (atEnd (text ++ [' ']))).map (text ++ ' ' :: ·) ∧
      (nextIndent (atEnd text) ≤ Insertion.widest →
        ∃ code, (expand language button (atEnd text)).map (text ++ ·) = .ok code) ∧
      ((∃ header, blockOpener "\x7b" header ∈ ownRules language) ↔ language.key ≠ "python") := by
  refine ⟨?_, fun hwidth => ?_, exists_brace_iff hlanguage⟩
  · rw [expand, expand, insertion_atEnd_of_setOff hlanguage hbutton h, Insertion.write_afterSpace]
    cases (insertion language button (atEnd (text ++ [' ']))).write <;> rfl
  · rw [expand_eq_ok language button (Int.natCast_nonneg _) hwidth]
    exact ⟨_, rfl⟩

/-- An operator whose button begins with no space, the word of a loop, and a brace after a header
that other lines precede. -/
theorem space_typed_or_not_in_three_places :
    (SetOff .python ⟨"py_1", "=", "= "⟩ (atEnd "total").line ∧
        (expand .python ⟨"py_1", "=", "= "⟩ (atEnd "total")).map ("total".toList ++ ·) =
          (expand .python ⟨"py_1", "=", "= "⟩ (atEnd ("total".toList ++ [' ']))).map
            ("total".toList ++ ' ' :: ·)) ∧
      (SetOff .php ⟨"php_27", "as", "as "⟩ (atEnd "foreach ($xs").line ∧
        (expand .php ⟨"php_27", "as", "as "⟩ (atEnd "foreach ($xs")).map
            ("foreach ($xs".toList ++ ·) =
          (expand .php ⟨"php_27", "as", "as "⟩ (atEnd ("foreach ($xs".toList ++ [' ']))).map
            ("foreach ($xs".toList ++ ' ' :: ·)) ∧
      SetOff .rust ⟨"sym_5", "\x7b", "\x7b"⟩ (atEnd "x\n  pub fn f()").line ∧
        (expand .rust ⟨"sym_5", "\x7b", "\x7b"⟩ (atEnd "x\n  pub fn f()")).map
            ("x\n  pub fn f()".toList ++ ·) =
          (expand .rust ⟨"sym_5", "\x7b", "\x7b"⟩ (atEnd ("x\n  pub fn f()".toList ++ [' ']))).map
            ("x\n  pub fn f()".toList ++ ' ' :: ·) := by
  have hoperator : SetOff .python ⟨"py_1", "=", "= "⟩ (atEnd "total").line :=
    .operator (by decide) (by decide)
  have hword : SetOff .php ⟨"php_27", "as", "as "⟩ (atEnd "foreach ($xs").line :=
    .loopWord sigilLoop (List.mem_cons_of_mem _ List.mem_cons_self) (by decide +kernel)
  have hlast : (atEnd "x\n  pub fn f()").line.getLast? = some ')' := by decide
  have hend : ∀ c, (atEnd "x\n  pub fn f()").line.getLast? = some c →
      isBlank c = false ∧ c ≠ '{' := by
    rw [hlast]
    rintro c ⟨⟩
    decide
  have hbrace : SetOff .rust ⟨"sym_5", "\x7b", "\x7b"⟩ (atEnd "x\n  pub fn f()").line :=
    .brace rustHeader rfl (List.mem_cons_of_mem _ List.mem_cons_self) (by decide +kernel)
      (by decide +kernel) hend
  have hpython : Language.python ∈ Language.builtIn := by simp [Language.builtIn]
  have hphp : Language.php ∈ Language.builtIn := by simp [Language.builtIn]
  have hrust : Language.rust ∈ Language.builtIn := by simp [Language.builtIn]
  exact ⟨⟨hoperator, (space_typed_or_not hpython (by decide +kernel) _ hoperator).1⟩,
    ⟨hword, (space_typed_or_not hphp (by decide +kernel) _ hword).1⟩,
    hbrace, (space_typed_or_not hrust (by decide +kernel) _ hbrace).1⟩

end Expansion

end CodeKeyboard
