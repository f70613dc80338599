import CodeKeyboard.Proofs.CandidatePool
import CodeKeyboard.Proofs.RulePriority
import CodeKeyboard.Proofs.TerminatorGuards

/-!
# Suggestions that no button answers to

A suggestion is of use when the pool has a button with its label: ranking looks at the buttons, and
passes over any other label. The rules of a family name labels on their own account, and each
keyboard has to provide them. `Language.lacking` lists, rule by rule, the labels that a built-in
language does not provide. There are two of them: the variable of a counting loop, and the variable
that goes first into a call.

- `Cascade.not_mem_pressable_iff`: of all labels that a rule can name only those lack a button.
- `Braced.mem_loopRule_variable_iff`, `Dialect.mem_closeCall_iff`: when the rules name them.
- `Cascade.NoButton`: the lines on which this happens.
- `Cascade.suggestion_has_no_button_iff`: they are the only ones, in every built-in language.
-/

namespace CodeKeyboard

open Text Pattern Phrase

/-! ## Labels without a button -/

namespace Language

/-- The labels of the buttons that can be pressed: those of the pool of its own keyboard. -/
def pressable (language : Language) : List Text :=
  language.keyboard.pool.map Button.label

/-- The languages whose keyboard has no button for the variable of a counting loop. -/
def withoutLoopVariable : List Text := ["javascript", "typescript", "csharp", "php"]

/-- The languages whose keyboard has no button for a variable. -/
def withoutVariable : List Text := ["rust", "php"]

/-- **The labels that a rule can name and the keyboard has no button for.** -/
def lacking (language : Language) : RuleName → List Text
  | .loopHeader => if language.key ∈ withoutLoopVariable then ["i"] else []
  | .iterableCall => if language.key ∈ withoutVariable then ["var"] else []
  | _ => []

theorem mem_lacking_iff {language : Language} {name : RuleName} {label : Text} :
    label ∈ language.lacking name ↔
      name = .loopHeader ∧ label = "i" ∧ language.key ∈ withoutLoopVariable ∨
        name = .iterableCall ∧ label = "var" ∧ language.key ∈ withoutVariable := by
  cases name <;> simp [lacking, and_comm]

end Language

/-! ## When the rules name them -/

/-- A gap consists of blanks. -/
theorem allBlank_of_matches_gap {w : Text} (h : Matches gap w) : allBlank w = true := by
  obtain ⟨_, rest, hfirst, hrest, rfl⟩ := matches_seq.1 h
  obtain ⟨c, hc, rfl⟩ := matches_one.1 hfirst
  rw [List.singleton_append, allBlank, List.all_cons, Bool.and_eq_true]
  exact ⟨hc, matches_blanks.1 hrest⟩

namespace Braced

variable {dialect : Dialect} {line : Text}

/-- With a declarator in them the parentheses of a loop are not empty any more: the line ends in the
declarator and not in the parenthesis. -/
theorem not_loopEmpty_of_loopDeclared (h : loopDeclared.accepts line = true) :
    (loopEmpty "for").accepts line = false := by
  have hdeclared : Matches (indented ([text "for", blanks, text "(", blanks,
      oneOrMore (one dollarWord)] ++ [gap])) line := accepts_iff.1 h
  obtain ⟨front, w, hfront, hgap, hline⟩ := matches_indented_append.1 hdeclared
  obtain ⟨c, hcloses, hlast⟩ := exists_last_of_ending_blanks
    [text "for", blanks, text "(", blanks] (by decide) rfl (matches_indented_append.2
      ⟨front, w, hfront, matches_blanks.2 (allBlank_of_matches_gap hgap), hline⟩)
  rw [Bool.eq_false_iff]
  intro hempty
  have hopening : Matches (indented ([text "for", blanks] ++ [text "("] ++ [blanks])) line :=
    accepts_iff.1 hempty
  obtain ⟨front, w, hfront, hw, rfl⟩ := matches_indented_append.1 hopening
  obtain ⟨front, _, -, hparenthesis, rfl⟩ := matches_indented_append.1 hfront
  obtain rfl : _ = ['('] := matches_text.1 hparenthesis
  rw [trimEnd_append_of_allBlank (matches_blanks.1 hw),
    trimEnd_of_getLast? List.getLast?_concat (by decide), List.getLast?_concat] at hlast
  obtain rfl := Option.some.inj hlast
  exact absurd hcloses (by decide)

/-- The variable of a loop is named where a declarator waits for it, if the dialect has no word that
is spelt the same. -/
theorem mem_loopRule_variable_iff {value : Score}
    (hwords : "i".toList ∉ [dialect.loopDeclarator, dialect.eachDeclarator, dialect.membership]) :
    ("i".toList, value) ∈ loopRule dialect line ↔
      loopDeclared.accepts line = true ∧ value = 1 := by
  by_cases hdeclared : loopDeclared.accepts line = true
  · rw [loopRule, not_loopEmpty_of_loopDeclared hdeclared, if_neg Bool.false_ne_true,
      if_pos hdeclared]
    simp [Suggestions.sure, hdeclared]
  · refine iff_of_false (fun h => ?_) fun h => hdeclared h.1
    -- the other parts of a loop are other labels
    rw [loopRule, if_neg hdeclared] at h
    simp only [List.mem_cons, List.not_mem_nil, or_false, not_or] at hwords
    split_ifs at h <;> simp_all [Suggestions.sure]

end Braced

namespace Dialect

variable {dialect : Dialect} {skip : List Text} {line label : Text} {value : Score}

/-- Any label but the closing parenthesis is named where the parentheses of a known call are empty
and it is one of those that go first. -/
theorem mem_closeCall_iff (hlabel : label ≠ ")".toList) :
    (label, value) ∈ dialect.closeCall skip line ↔
      ∃ callee arguments, Bracket.openCall line = some (callee, arguments) ∧ callee ∉ skip ∧
        callee ∈ dialect.helpers ∧ allBlank arguments = true ∧
        (label, value) ∈ dialect.firstArguments callee := by
  unfold closeCall
  cases hcall : Bracket.openCall line with
  | none => simp
  | some call =>
    obtain ⟨callee, arguments⟩ := call
    have hempty : (trim arguments).isEmpty = true ↔ allBlank arguments = true := by
      rw [List.isEmpty_iff, trim_eq_nil_iff]
    simp only [Option.some.injEq, Prod.mk.injEq]
    constructor
    · intro h
      split at h
      · cases h
      next hskip =>
      split at h
      · next hgiven =>
        split at h
        · next hknown => exact ⟨callee, arguments, ⟨rfl, rfl⟩, hskip, hknown, hempty.1 hgiven, h⟩
        · cases h
      · -- complete arguments make room for the closing parenthesis alone
        split at h
        · exact absurd (congrArg Prod.fst (List.mem_singleton.1 h)) hlabel
        · cases h
    · rintro ⟨_, _, ⟨rfl, rfl⟩, hskip, hknown, hgiven, h⟩
      rw [if_neg hskip, if_pos (hempty.2 hgiven), if_pos hknown]
      exact h

/-- Some variable goes first into the parentheses of any known call. -/
theorem variable_mem_firstArguments (dialect : Dialect) (callee : Text) :
    "var".toList ∈ Assoc.keys (dialect.firstArguments callee) := by
  unfold firstArguments
  split
  · split <;> decide
  · decide
  · decide

theorem pos_of_mem_firstArguments {callee : Text} {hit : Text × Score}
    (h : hit ∈ dialect.firstArguments callee) : 0 < hit.2 := by
  have hall : (dialect.firstArguments callee).all (0 < ·.2) = true := by
    unfold firstArguments
    split
    · split <;> decide +kernel
    · decide +kernel
    · decide +kernel
  exact of_decide_eq_true (List.all_eq_true.1 hall hit h)

/-- The rule about the arguments of a call passes over the words of loops, which look like calls. -/
theorem exists_rule_iterableCall (reserved : Text → Bool) (hfamily : dialect.family ≠ .plain) :
    ∃ skip : List Text, skip ⊆ ["for".toList, "foreach".toList] ∧
      dialect.rule reserved .iterableCall = dialect.closeCall skip := by
  have hform := dialect.ruleForm reserved .iterableCall
  generalize dialect.rule reserved .iterableCall = rule at hform ⊢
  cases hform with
  | plain hplain => exact absurd hplain hfamily
  | iterableCall _ hskip => exact ⟨_, hskip, rfl⟩

end Dialect

/-! ## The built-in languages -/

namespace Cascade

variable {language : Language} {dialect : Dialect} {line label : Text}

/-- A built-in language has the rules of its dialect. -/
theorem forKey_of_mem_builtIn (hbuiltIn : (language, dialect) ∈ builtIn) :
    forKey language.key = dialect.cascade language := by
  simp only [builtIn, List.mem_cons, Prod.mk.injEq, List.not_mem_nil, or_false] at hbuiltIn
  rcases hbuiltIn with ⟨rfl, rfl⟩ | ⟨rfl, rfl⟩ | ⟨rfl, rfl⟩ | ⟨rfl, rfl⟩ | ⟨rfl, rfl⟩ | ⟨rfl, rfl⟩ |
    ⟨rfl, rfl⟩ | ⟨rfl, rfl⟩ | ⟨rfl, rfl⟩ | ⟨rfl, rfl⟩ <;> rfl

/-- The score of a label that a rule names is the confidence that one of the rules gives it. -/
theorem exists_result_of_named {cascade : Cascade} {hits : Suggestions}
    (hhits : hits ∈ cascade.results line) (hlabel : label ∈ Assoc.keys hits) :
    ∃ hits ∈ cascade.results line, (label, cascade.score line label) ∈ hits := by
  rw [score, Suggestions.confidence, suggestions_eq_foldl_merge, Suggestions.lookup_foldl_merge,
    List.lookup_nil, Option.none_or]
  cases hfound : (cascade.results line).findSome? fun hits => hits.lookup label with
  | none =>
    have hnone := List.findSome?_eq_none_iff.1 hfound hits hhits
    exact absurd hlabel (Suggestions.lookup_eq_none_iff_keys.1 hnone)
  | some value =>
    obtain ⟨named, hnamed, hvalue⟩ := List.exists_of_findSome?_eq_some hfound
    exact ⟨named, hnamed, Assoc.mem_of_lookup hvalue⟩

/-- **Of all labels that a rule can name only those that are lacking have no button.** -/
theorem not_mem_pressable_iff : ∀ entry ∈ builtIn, ∀ name ∈ entry.2.order,
    ∀ label ∈ entry.2.labels name,
      label ∉ entry.1.pressable ↔ label ∈ entry.1.lacking name := by
  have hbuttons : ∀ entry ∈ builtIn, ∀ name ∈ entry.2.order, ∀ label ∈ entry.2.labels name,
      label ∉ entry.1.keyboard.buttons.map Button.label ↔ label ∈ entry.1.lacking name := by
    decide +kernel
  intro entry hentry name hname label hlabel
  rw [Language.pressable, Keyboard.pool, mem_labels_firstOfEachLabel_iff]
  exact hbuttons entry hentry name hname label hlabel

/-- Where the variable of a loop is lacking, no word of the loops is spelt the same. -/
theorem loops_of_withoutLoopVariable : ∀ entry ∈ builtIn,
    entry.1.key ∈ Language.withoutLoopVariable →
      .loopHeader ∈ entry.2.order ∧ entry.2.family = .braced ∧
        "i".toList ∉ [entry.2.loopDeclarator, entry.2.eachDeclarator, entry.2.membership] := by
  decide +kernel

/-- Where the variable is lacking, the known calls do not look like loops. -/
theorem calls_of_withoutVariable : ∀ entry ∈ builtIn, entry.1.key ∈ Language.withoutVariable →
    .iterableCall ∈ entry.2.order ∧ entry.2.family ≠ .plain ∧
      ∀ callee ∈ entry.2.helpers, callee ∉ ["for".toList, "foreach".toList] := by
  decide +kernel

/-- **The lines on which a suggestion has no button**, with the label that is suggested. -/
inductive NoButton (language : Language) (dialect : Dialect) (line : Text) : Text → Prop where
  /-- A counting loop is declared and waits for its variable. -/
  | loopVariable (hkey : language.key ∈ Language.withoutLoopVariable)
      (hline : Braced.loopDeclared.accepts line = true) : NoButton language dialect line "i"
  /-- The parentheses of a known call are empty. -/
  | firstArgument (hkey : language.key ∈ Language.withoutVariable) {callee arguments : Text}
      (hcall : Bracket.openCall line = some (callee, arguments))
      (hknown : callee ∈ dialect.helpers) (hempty : allBlank arguments = true) :
      NoButton language dialect line "var"

/-- A rule that names a label without a button does so on one of these lines. -/
theorem noButton_of_mem_rule (hbuiltIn : (language, dialect) ∈ builtIn) {name : RuleName}
    (hname : name ∈ dialect.order) {reserved : Text → Bool} {value : Score}
    (hhit : (label, value) ∈ dialect.rule reserved name line)
    (hbutton : label ∉ language.pressable) :
    NoButton language dialect line label ∧ 0 < value := by
  have hlisted := dialect.rule_among reserved name line _ hhit
  have hlacking := (not_mem_pressable_iff _ hbuiltIn name hname label hlisted).1 hbutton
  obtain ⟨rfl, rfl, hkey⟩ | ⟨rfl, rfl, hkey⟩ := Language.mem_lacking_iff.1 hlacking
  · obtain ⟨-, hfamily, hwords⟩ := loops_of_withoutLoopVariable _ hbuiltIn hkey
    rw [Dialect.rule, hfamily] at hhit
    obtain ⟨hline, rfl⟩ := (Braced.mem_loopRule_variable_iff hwords).1 hhit
    exact ⟨.loopVariable hkey hline, by decide +kernel⟩
  · obtain ⟨-, hfamily, -⟩ := calls_of_withoutVariable _ hbuiltIn hkey
    obtain ⟨skip, -, hrule⟩ := Dialect.exists_rule_iterableCall reserved hfamily
    rw [hrule, Dialect.mem_closeCall_iff (by decide)] at hhit
    obtain ⟨callee, arguments, hcall, -, hknown, hempty, hfirst⟩ := hhit
    exact ⟨.firstArgument hkey hcall hknown hempty, Dialect.pos_of_mem_firstArguments hfirst⟩

/-- On each of these lines a rule names the label. -/
theorem NoButton.exists_rule (hbuiltIn : (language, dialect) ∈ builtIn)
    (h : NoButton language dialect line label) (reserved : Text → Bool) :
    label ∉ language.pressable ∧
      ∃ name ∈ dialect.order, label ∈ Assoc.keys (dialect.rule reserved name line) := by
  have hnamed {name : RuleName} {value : Score} (hname : name ∈ dialect.order)
      (hlacking : label ∈ language.lacking name)
      (hhit : (label, value) ∈ dialect.rule reserved name line) :
      label ∉ language.pressable ∧
        ∃ name ∈ dialect.order, label ∈ Assoc.keys (dialect.rule reserved name line) := by
    have hlisted := dialect.rule_among reserved name line _ hhit
    exact ⟨(not_mem_pressable_iff _ hbuiltIn name hname label hlisted).2 hlacking, name, hname,
      List.mem_map_of_mem hhit⟩
  cases h with
  | loopVariable hkey hline =>
    obtain ⟨hname, hfamily, hwords⟩ := loops_of_withoutLoopVariable _ hbuiltIn hkey
    have hrule : dialect.rule reserved .loopHeader = Braced.loopRule dialect := by
      rw [Dialect.rule, hfamily]
    have hhit := (Braced.mem_loopRule_variable_iff hwords).2 ⟨hline, rfl⟩
    rw [← hrule] at hhit
    exact hnamed hname (Language.mem_lacking_iff.2 (.inl ⟨rfl, rfl, hkey⟩)) hhit
  | @firstArgument hkey callee arguments hcall hknown hempty =>
    obtain ⟨hname, hfamily, hcalls⟩ := calls_of_withoutVariable _ hbuiltIn hkey
    obtain ⟨skip, hskip, hrule⟩ := Dialect.exists_rule_iterableCall reserved hfamily
    obtain ⟨⟨_, value⟩, hvalue, rfl⟩ :=
      List.mem_map.1 (dialect.variable_mem_firstArguments callee)
    have hhit := (@Dialect.mem_closeCall_iff dialect skip line "var" value (by decide)).2
      ⟨callee, arguments, hcall, fun hmem => hcalls callee hknown (hskip hmem), hknown, hempty,
        hvalue⟩
    rw [← hrule] at hhit
    exact hnamed hname (Language.mem_lacking_iff.2 (.inr ⟨rfl, rfl, hkey⟩)) hhit

/-- **Which suggestions no button answers to**, for every built-in language, line and label: those
of `NoButton`, and no others. -/
theorem suggestion_has_no_button_iff (hbuiltIn : (language, dialect) ∈ builtIn)
    (line label : Text) :
    0 < (forKey language.key).score line label ∧ label ∉ language.pressable ↔
      NoButton language dialect line label := by
  rw [forKey_of_mem_builtIn hbuiltIn]
  constructor
  · rintro ⟨hscore, hbutton⟩
    obtain ⟨rule, hrule, hhit⟩ := exists_rule_of_mem_suggestions
      (mem_suggestions_of_score_ne_zero (score_ne_zero_of_pos hscore))
    obtain ⟨name, hname, rfl⟩ := List.mem_map.1 hrule
    exact (noButton_of_mem_rule hbuiltIn hname hhit hbutton).1
  · intro h
    obtain ⟨hbutton, name, hname, hlabel⟩ := h.exists_rule hbuiltIn language.isReserved
    refine ⟨?_, hbutton⟩
    -- some rule decides the score, and whichever it is the confidence is positive
    have hresult : dialect.rule language.isReserved name line ∈
        (dialect.cascade language).results line :=
      List.mem_map_of_mem (List.mem_map_of_mem hname)
    obtain ⟨hits, hhits, hhit⟩ := exists_result_of_named hresult hlabel
    obtain ⟨rule, hrule, rfl⟩ := List.mem_map.1 hhits
    obtain ⟨name, hname, rfl⟩ := List.mem_map.1 hrule
    exact (noButton_of_mem_rule hbuiltIn hname hhit hbutton).2

/-- In Rust a variable is suggested as the first argument of `println!`, and there is no button for
it. -/
theorem suggestion_has_no_button_in_macro :
    (Language.rust, Dialect.rust) ∈ builtIn ∧
      0 < (forKey Language.rust.key).score "println!(" "var" ∧
      "var".toList ∉ Language.rust.pressable := by
  have hbuiltIn : (Language.rust, Dialect.rust) ∈ builtIn := by simp [builtIn]
  have hcall : Bracket.openCall "println!(" = some ("println!".toList, []) := by decide +kernel
  have hline : NoButton Language.rust Dialect.rust "println!(" "var" :=
    .firstArgument (by decide) hcall (by decide) rfl
  exact ⟨hbuiltIn, (suggestion_has_no_button_iff hbuiltIn _ _).2 hline⟩

/-- The variable of a loop is suggested in JavaScript, and there is no button for it. -/
theorem loop_variable_has_no_button :
    (Language.javaScript, Dialect.javaScript) ∈ builtIn ∧
      0 < (forKey Language.javaScript.key).score "for (let " "i" ∧
      "i".toList ∉ Language.javaScript.pressable := by
  refine ⟨by simp [builtIn], ?_⟩
  decide +kernel

end Cascade

end CodeKeyboard
