import CodeKeyboard.Idiom.Scorer
import Mathlib.Data.List.Nodup

/-!
# The first rule that names a label decides (specification §4.3)

The rules of a cascade are asked in order of priority, and of all rules that name a label the first
one gives its confidence. A cascade is asked over and over for one line, so it answers from a memory
of its last answer; whatever was asked before, the answers are those of the rules alone.

What a rule names is a map, so no label stands in it twice. Of the rules of a dialect this has to be
asked only for the labels that go on with dotted names, which the dialect lists itself.

- `Suggestions.Decides`: which confidence the results of some rules give to a label.
- `Suggestions.keys_foldl_merge`, `Suggestions.decides_iff`: the labels and the confidences of
  results that are merged one after the other.
- `Dialect.rule_distinct`: no rule of a dialect names a label twice.
- `Cascade.first_naming_rule_decides`: what a scorer answers after any questions.
-/

namespace CodeKeyboard

namespace Suggestions

/-- No label is named twice. -/
def Distinct (hits : Suggestions) : Prop :=
  (Assoc.keys hits).Nodup

instance decidableDistinct (hits : Suggestions) : Decidable hits.Distinct :=
  inferInstanceAs (Decidable (Assoc.keys hits).Nodup)

/-- The confidence that the results of some rules, the first one deciding first, give to a label. -/
inductive Decides (label : Text) : List Suggestions → Score → Prop where
  /-- No rule is left that could name the label. -/
  | nothing : Decides label [] 0
  /-- The first rule names it. -/
  | first {hits : Suggestions} {results : List Suggestions} {value : Score}
      (h : (label, value) ∈ hits) : Decides label (hits :: results) value
  /-- The first rule does not name it, so the other ones decide. -/
  | later {hits : Suggestions} {results : List Suggestions} {value : Score}
      (h : label ∉ Assoc.keys hits) (hlater : Decides label results value) :
      Decides label (hits :: results) value

variable {hits first second : Suggestions} {results : List Suggestions} {label : Text}
  {value : Score}

/-- In a map a label is found with its value. -/
theorem lookup_eq_some_iff_of_distinct (h : hits.Distinct) :
    hits.lookup label = some value ↔ (label, value) ∈ hits := by
  induction hits with
  | nil => exact iff_of_false (nomatch ·) List.not_mem_nil
  | cons hit hits ih =>
    obtain ⟨l, v⟩ := hit
    obtain ⟨hnew, hrest⟩ := List.nodup_cons.1 h
    rw [List.lookup_cons, List.mem_cons, Prod.mk.injEq]
    by_cases hl : label = l
    · subst hl
      have habsent : (label, value) ∉ hits := fun hmem => hnew (List.mem_map.2 ⟨_, hmem, rfl⟩)
      simp [habsent, eq_comm]
    · have hb : (label == l) = false := beq_false_of_ne hl
      rw [hb]
      simp [hl, ih hrest]

theorem lookup_eq_none_iff_keys : hits.lookup label = none ↔ label ∉ Assoc.keys hits := by
  rw [List.lookup_eq_none_iff, Assoc.keys, List.mem_map, not_exists]
  constructor
  · rintro h hit ⟨hhit, rfl⟩
    exact absurd (h hit hhit) (by simp)
  · intro h hit hhit
    rw [bne_iff_ne]
    exact fun he => h hit ⟨hhit, he.symm⟩

/-- What the first of some results that names a label says about it is what they decide. -/
theorem decides_iff (hresults : ∀ hits ∈ results, hits.Distinct) :
    Decides label results value ↔
      (results.findSome? fun hits => hits.lookup label).getD 0 = value := by
  induction results with
  | nil =>
    constructor
    · intro h
      cases h
      rfl
    · rintro rfl
      exact .nothing
  | cons hits results ih =>
    obtain ⟨hhits, hrest⟩ := List.forall_mem_cons.1 hresults
    rw [List.findSome?_cons]
    cases hfound : hits.lookup label with
    | some found =>
      have hmem := (lookup_eq_some_iff_of_distinct hhits).1 hfound
      constructor
      · intro h
        cases h with
        | first hvalue =>
          have hlookup := (lookup_eq_some_iff_of_distinct hhits).2 hvalue
          exact Option.some.inj (hfound.symm.trans hlookup)
        | later habsent => exact absurd (List.mem_map.2 ⟨_, hmem, rfl⟩) habsent
      · rintro rfl
        exact .first hmem
    | none =>
      have habsent := lookup_eq_none_iff_keys.1 hfound
      constructor
      · intro h
        cases h with
        | first hvalue => exact absurd (List.mem_map.2 ⟨_, hvalue, rfl⟩) habsent
        | later _ hlater => exact (ih hrest).1 hlater
      · exact fun h => .later habsent ((ih hrest).2 h)

/-! ## Merging -/

/-- Of results that are merged one after the other the first that names a label tells its value. -/
theorem lookup_foldl_merge (hits : Suggestions) (results : List Suggestions) (label : Text) :
    (results.foldl merge hits).lookup label =
      (hits.lookup label).or (results.findSome? fun hits => hits.lookup label) := by
  induction results generalizing hits with
  | nil => simp
  | cons first results ih =>
    rw [List.foldl_cons, ih, lookup_merge, Option.or_assoc, List.findSome?_cons]
    cases first.lookup label <;> rfl

/-- Merging takes over the labels of the first result, and after them the new ones of the second. -/
theorem keys_merge (first second : Suggestions) :
    Assoc.keys (first.merge second) =
      Assoc.keys first ++ (Assoc.keys second).removeAll (Assoc.keys first) := by
  have hnamed : ∀ hit : Text × Score,
      first.any (·.1 == hit.1) = (Assoc.keys first).elem hit.1 := by
    intro hit
    rw [Bool.eq_iff_iff, List.any_eq_true, List.elem_iff, Assoc.keys, List.mem_map]
    simp only [beq_iff_eq]
  rw [merge, Assoc.keys, List.map_append, List.removeAll, Assoc.keys, Assoc.keys, List.filter_map]
  congr 2
  refine List.filter_congr fun hit _ => ?_
  rw [hnamed, Assoc.keys]
  rfl

/-- Merging puts in only labels that are not there yet. -/
theorem Distinct.merge (hfirst : first.Distinct) (hsecond : second.Distinct) :
    (first.merge second).Distinct := by
  rw [Distinct, keys_merge]
  refine List.nodup_append'.2 ⟨hfirst, hsecond.filter _, fun label hlabel hnew => ?_⟩
  have hnot := (List.mem_filter.1 hnew).2
  simp [hlabel] at hnot

theorem Distinct.foldl_merge (hhits : hits.Distinct) (hresults : ∀ hits ∈ results, hits.Distinct) :
    Distinct (results.foldl Suggestions.merge hits) := by
  induction results generalizing hits with
  | nil => exact hhits
  | cons first results ih =>
    obtain ⟨hfirst, hrest⟩ := List.forall_mem_cons.1 hresults
    exact ih (hhits.merge hfirst) hrest

theorem eraseDups_of_nodup {labels : List Text} (h : labels.Nodup) : labels.eraseDups = labels := by
  induction labels with
  | nil => rfl
  | cons label labels ih =>
    obtain ⟨hnew, hrest⟩ := List.nodup_cons.1 h
    have hkeep : labels.filter (fun l => !l == label) = labels := by
      refine List.filter_eq_self.2 fun l hl => ?_
      simpa using fun heq : l = label => hnew (heq ▸ hl)
    rw [List.eraseDups_cons, hkeep, ih hrest]

/-- Labels that stand further in front change nothing further on. -/
theorem eraseDups_append_removeAll (before labels after : List Text) :
    (before ++ labels.removeAll before ++ after).eraseDups =
      (before ++ (labels ++ after)).eraseDups := by
  have htwice : (labels.removeAll before).removeAll before = labels.removeAll before := by
    simp [List.removeAll, List.filter_filter]
  have hboth : after.removeAll (before ++ labels.removeAll before) =
      (after.removeAll before).removeAll (labels.removeAll before) := by
    simp [List.removeAll, List.filter_filter, Bool.and_comm]
  have happend : (labels ++ after).removeAll before =
      labels.removeAll before ++ after.removeAll before := by
    simp [List.removeAll]
  rw [List.eraseDups_append, List.eraseDups_append, htwice, hboth, List.append_assoc,
    ← List.eraseDups_append, ← happend, ← List.eraseDups_append]

/-- **The labels of results that are merged one after the other** are all that the results name,
each in its first place. -/
theorem keys_foldl_merge (hhits : hits.Distinct) (hresults : ∀ hits ∈ results, hits.Distinct) :
    Assoc.keys (results.foldl merge hits) =
      (Assoc.keys hits ++ results.flatMap Assoc.keys).eraseDups := by
  induction results generalizing hits with
  | nil => rw [List.flatMap_nil, List.append_nil, eraseDups_of_nodup hhits]; rfl
  | cons first results ih =>
    obtain ⟨hfirst, hrest⟩ := List.forall_mem_cons.1 hresults
    rw [List.foldl_cons, ih (hhits.merge hfirst) hrest, keys_merge, eraseDups_append_removeAll,
      List.flatMap_cons]

/-! ## Results of rules -/

theorem distinct_nil : Distinct [] :=
  List.nodup_nil

theorem distinct_sure (label : Text) : (sure label).Distinct :=
  List.nodup_singleton label

/-- What is suggested in either case names no label twice. -/
theorem Distinct.ite {p : Prop} [Decidable p] {hits others : Suggestions} (hhits : hits.Distinct)
    (hothers : others.Distinct) : (if p then hits else others).Distinct := by
  split
  · exact hhits
  · exact hothers

end Suggestions

open Suggestions

/-! ## The families -/

namespace Dialect

variable {dialect : Dialect}

/-- The labels that go on with a dotted name are the keys of a map, so each is listed once. -/
def DistinctChains (dialect : Dialect) : Prop :=
  ∀ chain ∈ dialect.memberChains, Distinct chain.2

theorem firstArguments_distinct (dialect : Dialect) (callee : Text) :
    (dialect.firstArguments callee).Distinct := by
  unfold firstArguments
  split
  · exact .ite (by decide) (by decide)
  · decide
  · decide

theorem closeCall_distinct (dialect : Dialect) (skip : List Text) (line : Text) :
    (dialect.closeCall skip line).Distinct := by
  unfold closeCall
  split
  · exact distinct_nil
  · refine .ite distinct_nil (.ite (.ite ?_ distinct_nil) (.ite ?_ distinct_nil))
    · exact firstArguments_distinct ..
    · exact List.nodup_singleton _

theorem memberChain_distinct (hchains : dialect.DistinctChains) (line : Text) :
    (dialect.memberChain line).Distinct := by
  unfold memberChain
  cases hfound : dialect.memberChains.find? fun chain => endsInWhole chain.1 line with
  | none => exact distinct_nil
  | some chain => exact hchains chain (List.mem_of_find?_eq_some hfound)

theorem callableAtEnd_distinct (dialect : Dialect) (line : Text) :
    (dialect.callableAtEnd line).Distinct :=
  .ite (List.nodup_singleton _) distinct_nil

theorem chainOrCall_distinct (hchains : dialect.DistinctChains) (line : Text) :
    (dialect.chainOrCall line).Distinct :=
  .ite (callableAtEnd_distinct dialect line) (memberChain_distinct hchains line)

end Dialect

namespace Braced

variable {dialect : Dialect}

theorem loopRule_distinct (dialect : Dialect) (line : Text) :
    (loopRule dialect line).Distinct := by
  unfold loopRule
  refine .ite (.ite distinct_nil (distinct_sure _)) (.ite (distinct_sure _) ?_)
  refine .ite (distinct_sure _) (.ite (distinct_sure _) (.ite (by decide) ?_))
  refine .ite (distinct_sure _) (.ite (distinct_sure _) ?_)
  exact .ite (distinct_sure _) distinct_nil

/-- The end of a statement and the sign of a stream are put into a map, where they might be equal.
-/
theorem statementEnd_distinct (dialect : Dialect) (s : Text) :
    (statementEnd dialect s).Distinct := by
  unfold statementEnd
  refine .ite (distinct_sure _) (.ite (distinct_sure _) (.ite ?_ ?_))
  · exact Assoc.nodup_keys_ofPairs _
  · exact .ite (distinct_sure _) (.ite (distinct_sure _) distinct_nil)

theorem terminatorRule_distinct (dialect : Dialect) (line : Text) :
    (terminatorRule dialect line).Distinct := by
  unfold terminatorRule
  refine .ite distinct_nil (.ite (distinct_sure _) (.ite distinct_nil ?_))
  exact statementEnd_distinct ..

/-- So are the labels for a name, of which the dialect may list one twice. -/
theorem declarationRule_distinct (dialect : Dialect) (reserved : Text → Bool) (line : Text) :
    (declarationRule dialect reserved line).Distinct := by
  unfold declarationRule
  refine .ite (by decide) (.ite (by decide) (.ite (distinct_sure _) (.ite ?_ (.ite ?_ ?_))))
  · exact Assoc.nodup_keys_ofPairs _
  · exact Assoc.nodup_keys_ofPairs _
  · exact .ite (List.nodup_singleton _) distinct_nil

theorem callRule_distinct (hchains : dialect.DistinctChains) (line : Text) :
    (callRule dialect line).Distinct :=
  .ite (.ite (List.nodup_singleton _) distinct_nil) (Dialect.chainOrCall_distinct hchains line)

end Braced

namespace Indented

theorem loopRule_distinct (line : Text) : (loopRule line).Distinct := by
  unfold loopRule
  exact .ite (by decide) (.ite (by decide) (.ite (by decide) (.ite (by decide) (by decide))))

theorem terminatorRule_distinct (line : Text) : (terminatorRule line).Distinct := by
  unfold terminatorRule
  exact .ite distinct_nil (.ite (distinct_sure _) distinct_nil)

theorem declarationRule_distinct (reserved : Text → Bool) (line : Text) :
    (declarationRule reserved line).Distinct := by
  unfold declarationRule
  exact .ite (by decide) (.ite (by decide) distinct_nil)

end Indented

namespace GoIdiom

theorem loopRule_distinct (line : Text) : (loopRule line).Distinct := by
  unfold loopRule
  exact .ite (distinct_sure _) (.ite (by decide) distinct_nil)

theorem terminatorRule_distinct (line : Text) : (terminatorRule line).Distinct := by
  unfold terminatorRule
  exact .ite distinct_nil (.ite (distinct_sure _) distinct_nil)

theorem declarationRule_distinct (reserved : Text → Bool) (line : Text) :
    (declarationRule reserved line).Distinct := by
  unfold declarationRule
  exact .ite (distinct_sure _) (.ite (by decide) (.ite (by decide) distinct_nil))

end GoIdiom

namespace RustIdiom

theorem loopRule_distinct (line : Text) : (loopRule line).Distinct := by
  unfold loopRule
  exact .ite (distinct_sure _) (.ite (by decide) distinct_nil)

theorem terminatorRule_distinct (line : Text) : (terminatorRule line).Distinct := by
  unfold terminatorRule
  exact .ite distinct_nil (.ite (distinct_sure _) (.ite (distinct_sure _) distinct_nil))

theorem declarationRule_distinct (line : Text) : (declarationRule line).Distinct := by
  unfold declarationRule
  refine .ite (by decide) (.ite (distinct_sure _) (.ite (by decide) ?_))
  exact .ite (by decide) distinct_nil

theorem callRule_distinct (line : Text) : (callRule line).Distinct :=
  .ite (List.nodup_singleton _) distinct_nil

end RustIdiom

namespace Dialect

/-- **No rule of a dialect names a label twice**, if the labels that it lists for a dotted name are
distinct. -/
theorem rule_distinct {dialect : Dialect} (hchains : dialect.DistinctChains)
    (reserved : Text → Bool) (name : RuleName) (line : Text) :
    (dialect.rule reserved name line).Distinct := by
  have hform := dialect.ruleForm reserved name
  generalize dialect.rule reserved name = rule at hform ⊢
  cases hform with
  | plain => exact distinct_nil
  | indentedLoop => exact Indented.loopRule_distinct line
  | bracedLoop => exact Braced.loopRule_distinct dialect line
  | goLoop => exact GoIdiom.loopRule_distinct line
  | rustLoop => exact RustIdiom.loopRule_distinct line
  | iterableCall | openCall => exact closeCall_distinct ..
  | indentedTerminator => exact Indented.terminatorRule_distinct line
  | bracedTerminator => exact Braced.terminatorRule_distinct dialect line
  | goTerminator => exact GoIdiom.terminatorRule_distinct line
  | rustTerminator => exact RustIdiom.terminatorRule_distinct line
  | indentedDeclaration => exact Indented.declarationRule_distinct reserved line
  | bracedDeclaration => exact Braced.declarationRule_distinct dialect reserved line
  | goDeclaration => exact GoIdiom.declarationRule_distinct reserved line
  | rustDeclaration => exact RustIdiom.declarationRule_distinct line
  | chainOrCall => exact chainOrCall_distinct hchains line
  | bracedCall => exact Braced.callRule_distinct hchains line
  | rustCall => exact RustIdiom.callRule_distinct line
  | memberChain => exact memberChain_distinct hchains line
  | callableAtEnd => exact callableAtEnd_distinct dialect line

end Dialect

namespace Cascade

variable {cascade : Cascade} {memory : Memory}

/-! ## Questions -/

/-- What a scorer can be asked. -/
inductive Question where
  /-- All suggestions for a line. -/
  | suggestions (line : Text)
  /-- The confidence of one label on a line. -/
  | score (line label : Text)

/-- The line that a question is about. -/
def Question.line : Question → Text
  | .suggestions line => line
  | .score line _ => line

/-- The memory after some questions. -/
def remembering (cascade : Cascade) (memory : Memory) (questions : List Question) : Memory :=
  questions.foldl (fun memory question => (cascade.ask memory question.line).2) memory

/-- The confidence of a label on a line, asked through the memory. -/
def askScore (cascade : Cascade) (memory : Memory) (line label : Text) : Score × Memory :=
  let (hits, memory) := cascade.ask memory line
  (hits.confidence label, memory)

/-- Whatever is asked, what is remembered is what the cascade suggests. -/
theorem faithful_remembering (h : memory.Faithful cascade) (questions : List Question) :
    (cascade.remembering memory questions).Faithful cascade := by
  induction questions generalizing memory with
  | nil => exact h
  | cons question questions ih => exact ih (faithful_ask h question.line)

/-- The results of the rules for a line, the first one deciding first. -/
def results (cascade : Cascade) (line : Text) : List Suggestions :=
  cascade.rules.map fun rule => rule line

theorem suggestions_eq_foldl_merge (cascade : Cascade) (line : Text) :
    cascade.suggestions line = (cascade.results line).foldl merge [] := by
  rw [suggestions, results, List.foldl_map]

/-- **What the rules decide** is what the cascade suggests. -/
theorem decides_score_iff {line label : Text} {value : Score}
    (hresults : ∀ hits ∈ cascade.results line, hits.Distinct) :
    cascade.score line label = value ↔ Decides label (cascade.results line) value := by
  rw [decides_iff hresults, score, confidence, suggestions_eq_foldl_merge, lookup_foldl_merge]
  rfl

/-- **The first rule that names a label decides, whatever was asked before.** Take any dialect, with
its rules in any order, and ask its scorer anything. After that the confidence of a label is what
the first rule says that names it, and nothing when none does. The suggestions for a line have each
label that a rule names once, in the order in which they are first named, and with the confidence
that is decided. -/
theorem first_naming_rule_decides {dialect : Dialect} (hchains : dialect.DistinctChains)
    (language : Language) (earlier : List Question) (line : Text) :
    let cascade := dialect.cascade language
    let memory := cascade.remembering .blank earlier
    let results := dialect.order.map fun name => dialect.rule language.isReserved name line
    (∀ label value, (cascade.askScore memory line label).1 = value ↔ Decides label results value) ∧
      (∀ hit ∈ (cascade.ask memory line).1, Decides hit.1 results hit.2) ∧
      Assoc.keys (cascade.ask memory line).1 = (results.flatMap Assoc.keys).eraseDups ∧
      (Assoc.keys (cascade.ask memory line).1).Nodup := by
  intro cascade memory results
  have hfaithful := faithful_remembering (Memory.faithful_blank cascade) earlier
  have hask : (cascade.ask memory line).1 = cascade.suggestions line := ask_fst hfaithful line
  have hresults : cascade.results line = results := List.map_map
  have hdistinct : ∀ hits ∈ cascade.results line, hits.Distinct := by
    intro hits hhits
    rw [hresults] at hhits
    obtain ⟨name, -, rfl⟩ := List.mem_map.1 hhits
    exact dialect.rule_distinct hchains _ name line
  have hsuggestions : (cascade.suggestions line).Distinct := by
    rw [suggestions_eq_foldl_merge]
    exact distinct_nil.foldl_merge hdistinct
  rw [hask, ← hresults]
  refine ⟨fun label value => ?_, fun hit hhit => ?_, ?_, hsuggestions⟩
  · have hscore : (cascade.askScore memory line label).1 =
        (cascade.ask memory line).1.confidence label := rfl
    rw [hscore, hask]
    exact decides_score_iff hdistinct
  · rw [← decides_score_iff hdistinct, score, confidence,
      (lookup_eq_some_iff_of_distinct hsuggestions).2 hhit, Option.getD_some]
  · rw [suggestions_eq_foldl_merge, keys_foldl_merge distinct_nil hdistinct]
    rfl

/-- Both rules of a dialect name a parenthesis on a line that was asked for before, and so was
another line. The rule that stands first decides. -/
theorem first_naming_rule_decides_on_dotted_name :
    let dialect : Dialect :=
      { family := .plain
        order := [.memberChain, .callableAtEnd]
        callables := ["f"]
        memberChains := [("f", [("g", Score.hundredths 20), ("(", Score.hundredths 10)])] }
    let cascade := dialect.cascade Language.python
    let memory := cascade.remembering .blank [.suggestions "f", .score "x" "g", .score "f" "h"]
    let results := dialect.order.map fun name => dialect.rule Language.python.isReserved name "f"
    dialect.DistinctChains ∧
      results.map Assoc.keys = [["g".toList, "(".toList], ["(".toList]] ∧
      (cascade.askScore memory "f" "(").1 = Score.hundredths 10 ∧
      Assoc.keys (cascade.ask memory "f").1 = ["g".toList, "(".toList] := by
  intro dialect cascade memory results
  have hchains : dialect.DistinctChains := by
    intro chain hchain
    rw [List.mem_singleton.1 hchain]
    decide
  have hkeys : results.map Assoc.keys = [["g".toList, "(".toList], ["(".toList]] := by
    decide +kernel
  obtain ⟨hscore, -, hlisted, -⟩ := first_naming_rule_decides hchains Language.python
    [.suggestions "f", .score "x" "g", .score "f" "h"] "f"
  have hfirst : ("(".toList, Score.hundredths 10) ∈ dialect.memberChain "f" := by decide +kernel
  refine ⟨hchains, hkeys, (hscore _ _).2 (.first hfirst), hlisted.trans ?_⟩
  rw [List.flatMap_def, hkeys]
  decide

end Cascade

end CodeKeyboard
