import CodeKeyboard.Idiom.Scorer
import Mathlib.Tactic.SplitIfs

/-!
# Which labels a rule can name

A rule names few labels, whatever the line is: those written in it, and the words that the dialect
gives it. `Dialect.labels` lists them rule by rule. A list leaves a label out where the dialect has
no use for it, such as the signs of the streams in a language without streams, so that what holds of
the listed labels is not more than what holds of the suggestions.

- `Dialect.rule_among`: no rule names a label that is not listed for it.
- `Cascade.exists_rule_of_score_ne_zero`: a label that scores is named by a rule, so it is listed.
-/

namespace CodeKeyboard

namespace Suggestions

/-- Every label that is suggested is one of some labels. -/
def Among (hits : Suggestions) (labels : List Text) : Prop :=
  ∀ hit ∈ hits, hit.1 ∈ labels

variable {labels : List Text}

@[simp] theorem among_nil : Among [] labels :=
  fun _ hhit => by cases hhit

@[simp] theorem among_cons {hit : Text × Score} {hits : Suggestions} :
    Among (hit :: hits) labels ↔ hit.1 ∈ labels ∧ Among hits labels :=
  List.forall_mem_cons

@[simp] theorem among_sure {label : Text} : (sure label).Among labels ↔ label ∈ labels := by
  simp [sure]

instance decidableAmong (hits : Suggestions) (labels : List Text) :
    Decidable (hits.Among labels) :=
  inferInstanceAs (Decidable (∀ hit ∈ hits, hit.1 ∈ labels))

/-- More labels may be listed. -/
theorem Among.mono {hits : Suggestions} {more : List Text} (h : hits.Among labels)
    (hsub : labels ⊆ more) : hits.Among more :=
  fun hit hhit => hsub (h hit hhit)

/-- What is suggested in either case is among the labels. -/
theorem Among.ite {p : Prop} [Decidable p] {hits others : Suggestions}
    (hhits : p → hits.Among labels) (hothers : others.Among labels) :
    (if p then hits else others).Among labels := by
  split
  · next hp => exact hhits hp
  · exact hothers

/-- Putting a listed label suggests no other ones. -/
theorem among_put {hits : Suggestions} (h : hits.Among labels) {label : Text} (hl : label ∈ labels)
    (value : Score) : Among (Assoc.put hits label value) labels := by
  induction hits with
  | nil => simpa [Assoc.put] using hl
  | cons hit hits ih =>
    obtain ⟨hhit, hhits⟩ := among_cons.1 h
    obtain ⟨l, v⟩ := hit
    rw [Assoc.put]
    split
    · exact among_cons.2 ⟨hhit, hhits⟩
    · exact among_cons.2 ⟨hhit, ih hhits⟩

/-- Putting pairs one after the other suggests no other labels. -/
theorem among_ofPairs {pairs : Suggestions} (h : pairs.Among labels) :
    Among (Assoc.ofPairs pairs) labels := by
  suffices ∀ map : Suggestions, map.Among labels →
      Among (pairs.foldl (fun map entry => Assoc.put map entry.1 entry.2) map) labels from
    this [] among_nil
  induction pairs with
  | nil => exact fun map hmap => hmap
  | cons entry pairs ih =>
    obtain ⟨hentry, hpairs⟩ := among_cons.1 h
    exact fun map hmap => ih hpairs _ (among_put hmap hentry entry.2)

end Suggestions

/-! ## Patterns with words -/

namespace Pattern

/-- Every part of a chain matches a part of the text. -/
theorem exists_matches_of_mem_chain {ps : List Pattern} {p : Pattern} {s : Text}
    (h : Matches (chain ps) s) (hp : p ∈ ps) : ∃ t, Matches p t := by
  induction ps generalizing s with
  | nil => cases hp
  | cons q ps ih =>
    obtain ⟨t, u, ht, hu, -⟩ := matches_chain_cons.1 h
    rcases List.mem_cons.1 hp with rfl | hp
    · exact ⟨t, ht⟩
    · exact ih hu hp

/-- A chain that looks for one of some words matches nothing when there are none. -/
theorem words_ne_nil_of_matches {ps : List Pattern} {words : List Text} {s : Text}
    (h : Matches (chain ps) s) (hwords : oneOfTexts words ∈ ps) : words ≠ [] := by
  obtain ⟨t, ht⟩ := exists_matches_of_mem_chain h hwords
  exact List.ne_nil_of_mem (matches_oneOfTexts.1 ht)

end Pattern

namespace Braced

open Pattern

/-- A line that writes to a stream is one in a language that has streams. -/
theorem streams_ne_nil_of_streaming {streams : List Text} {s : Text}
    (h : (streaming streams).accepts s = true) : streams ≠ [] := by
  obtain ⟨_, u, -, hu, -⟩ := matches_seq.1 (accepts_iff.1 h)
  exact words_ne_nil_of_matches hu (by simp)

end Braced

/-! ## The labels of a dialect -/

namespace Dialect

/-- The labels that go first into the parentheses of the known calls, and the parenthesis that
closes a call. -/
def argumentLabels (dialect : Dialect) : List Text :=
  ")" :: dialect.helpers.flatMap fun callee => (dialect.firstArguments callee).map Prod.fst

/-- The labels that go on with dotted names. -/
def memberLabels (dialect : Dialect) : List Text :=
  dialect.memberChains.flatMap fun chain => chain.2.map Prod.fst

/-- The parenthesis after a known name. -/
def callableLabels (dialect : Dialect) : List Text :=
  if dialect.callables = [] then [] else ["("]

/-- The labels of a counting loop, and of a loop over a collection. -/
def bracedLoopLabels (dialect : Dialect) : List Text :=
  (["i", "=", ";", "<", "<="] : List Text) ++
    [dialect.loopDeclarator, dialect.eachDeclarator, dialect.membership].filter (!·.isEmpty)

/-- The brace after a header, what ends a statement, and the signs of the streams. -/
def bracedTerminatorLabels (dialect : Dialect) : List Text :=
  "\x7b".toList ::
    if dialect.endOfStatement.isEmpty then []
    else dialect.endOfStatement :: if dialect.streams = [] then [] else ["<<", ">>"]

/-- The labels that go on with a name that may be followed by its type. -/
def annotationLabels (dialect : Dialect) : List Text :=
  if dialect.typeAnnotations then ["string", "number", "boolean", "=", ":", ";"] else []

/-- The labels of a declaration with its name and its type, and of an assignment. -/
def bracedDeclarationLabels (dialect : Dialect) : List Text :=
  "=".toList :: (dialect.nameLabels ++
    (if dialect.endOfStatement.isEmpty then [] else [dialect.endOfStatement]) ++
    (if dialect.sigil.isEmpty then [] else ["name".toList]) ++ dialect.annotationLabels)

/-- The labels that a rule can name. -/
def labels (dialect : Dialect) : RuleName → List Text
  | .loopHeader =>
    match dialect.family with
    | .plain => []
    | .indented => ["i", "in", "enumerate", "zip", "range"]
    | .braced => dialect.bracedLoopLabels
    | .go => [":=", "range", "0"]
    | .rust => ["in", "0"]
  | .iterableCall =>
    match dialect.family with
    | .plain => []
    | _ => dialect.argumentLabels
  | .terminator =>
    match dialect.family with
    | .plain => []
    | .indented => [":"]
    | .braced => dialect.bracedTerminatorLabels
    | .go => ["\x7b"]
    | .rust => ["\x7b", ";"]
  | .declaration =>
    match dialect.family with
    | .plain => []
    | .indented => ["==", "!=", "in", "=", "+="]
    | .braced => dialect.bracedDeclarationLabels
    | .go => ["name", "int", "string", "=", ":="]
    | .rust => ["mut", "name", "i32", "String", "Vec", ":", "="]
  | .callOpening =>
    match dialect.family with
    | .plain => []
    | .indented | .go => dialect.memberLabels ++ dialect.callableLabels
    | .braced =>
      if dialect.containerMembers then [".size()"]
      else dialect.memberLabels ++ dialect.callableLabels
    | .rust => ["("]
  | .memberChain => dialect.memberLabels
  | .callableAtEnd => dialect.callableLabels
  | .openCall => dialect.argumentLabels

variable {dialect : Dialect} {line : Text}

/-! ## Calls -/

/-- What goes into a known call is listed for the call. -/
theorem closeCall_among (dialect : Dialect) (skip : List Text) (line : Text) :
    (dialect.closeCall skip line).Among dialect.argumentLabels := by
  unfold closeCall
  split
  · exact Suggestions.among_nil
  · next callee arguments _ =>
    refine .ite (fun _ => Suggestions.among_nil) (.ite (fun _ => .ite (fun hknown => ?_) ?_) ?_)
    · intro hit hhit
      have hargument : hit.1 ∈ (dialect.firstArguments callee).map Prod.fst :=
        List.mem_map_of_mem hhit
      exact List.mem_cons_of_mem _
        (List.mem_flatMap.2 ⟨callee, hknown, hargument⟩)
    · exact Suggestions.among_nil
    · exact .ite (fun _ => by simp [argumentLabels]) Suggestions.among_nil

/-- What goes on with a dotted name is listed for the name. -/
theorem memberChain_among (dialect : Dialect) (line : Text) :
    (dialect.memberChain line).Among dialect.memberLabels := by
  intro hit hhit
  unfold memberChain at hhit
  cases hfound : dialect.memberChains.find? fun chain => endsInWhole chain.1 line with
  | none =>
    rw [hfound] at hhit
    cases hhit
  | some chain =>
    rw [hfound] at hhit
    exact List.mem_flatMap.2 ⟨chain, List.mem_of_find?_eq_some hfound, List.mem_map_of_mem hhit⟩

/-- A parenthesis is named only where the dialect has names for it. -/
theorem callableAtEnd_among (dialect : Dialect) (line : Text) :
    (dialect.callableAtEnd line).Among dialect.callableLabels := by
  refine .ite (fun h => ?_) Suggestions.among_nil
  have hcallables : dialect.callables ≠ [] :=
    Pattern.words_ne_nil_of_matches (Pattern.accepts_iff.1 h) (by simp)
  simp [callableLabels, hcallables]

theorem chainOrCall_among (dialect : Dialect) (line : Text) :
    (dialect.chainOrCall line).Among (dialect.memberLabels ++ dialect.callableLabels) := by
  unfold chainOrCall
  refine .ite (fun _ => ?_) ?_
  · exact (callableAtEnd_among dialect line).mono (List.subset_append_right _ _)
  · exact (memberChain_among dialect line).mono (List.subset_append_left _ _)

end Dialect

/-! ## The families -/

namespace Braced

variable {dialect : Dialect}

/-- A word of the dialect that is empty is not named. -/
theorem loopRule_among (dialect : Dialect) (line : Text) :
    (loopRule dialect line).Among dialect.bracedLoopLabels := by
  have hsigns : ∀ {hits : Suggestions}, hits.Among ["i", "=", ";", "<", "<="] →
      hits.Among dialect.bracedLoopLabels :=
    fun hhits => hhits.mono (List.subset_append_left _ _)
  -- the words of the dialect are listed unless they are empty, and then they are not named
  have hword : ∀ word ∈ [dialect.loopDeclarator, dialect.eachDeclarator, dialect.membership],
      word.isEmpty = false → (Suggestions.sure word).Among dialect.bracedLoopLabels :=
    fun word hword hne => Suggestions.among_sure.2
      (List.mem_append_right _ (List.mem_filter.2 ⟨hword, by rw [hne]; rfl⟩))
  unfold loopRule
  refine .ite (fun _ => ?_) ?_
  · split
    · exact Suggestions.among_nil
    · next hne => exact hword _ (by simp) (by simpa using hne)
  refine .ite (fun _ => hsigns (by decide)) (.ite (fun _ => hsigns (by decide)) ?_)
  refine .ite (fun _ => hsigns (by decide)) (.ite (fun _ => hsigns (by decide)) ?_)
  refine .ite (fun _ => hsigns (by decide)) (.ite (fun heach => ?_) (.ite (fun hover => ?_) ?_))
  · rw [Bool.and_eq_true, Bool.not_eq_true'] at heach
    exact hword _ (by simp) heach.1
  · rw [Bool.and_eq_true, Bool.not_eq_true'] at hover
    exact hword _ (by simp) hover.1
  · exact Suggestions.among_nil

/-- The signs of the streams are named only where there are streams. -/
theorem statementEnd_among (hend : dialect.endOfStatement.isEmpty = false) (s : Text) :
    (statementEnd dialect s).Among dialect.bracedTerminatorLabels := by
  have hlabel : dialect.endOfStatement ∈ dialect.bracedTerminatorLabels := by
    simp [Dialect.bracedTerminatorLabels, hend]
  have hsure := Suggestions.among_sure.2 hlabel
  unfold statementEnd
  refine .ite (fun _ => hsure) (.ite (fun _ => hsure) (.ite (fun hstreaming => ?_) ?_))
  · have hstreams := streams_ne_nil_of_streaming hstreaming
    refine Suggestions.among_ofPairs ?_
    split_ifs <;> simp [Dialect.bracedTerminatorLabels, hend, hstreams]
  · exact .ite (fun _ => hsure) (.ite (fun _ => hsure) Suggestions.among_nil)

theorem terminatorRule_among (dialect : Dialect) (line : Text) :
    (terminatorRule dialect line).Among dialect.bracedTerminatorLabels := by
  unfold terminatorRule
  refine .ite (fun _ => Suggestions.among_nil) (.ite (fun _ => ?_) ?_)
  · simp [Dialect.bracedTerminatorLabels]
  · split
    · exact Suggestions.among_nil
    · next hgoesOn => exact statementEnd_among (by simp_all) _

/-- What goes on with a type is named only where types may follow. -/
theorem declarationRule_among (dialect : Dialect) (reserved : Text → Bool) (line : Text) :
    (declarationRule dialect reserved line).Among dialect.bracedDeclarationLabels := by
  have hassign : "=".toList ∈ dialect.bracedDeclarationLabels := List.mem_cons_self
  have hannotation : dialect.annotationLabels ⊆ dialect.bracedDeclarationLabels :=
    fun _ hlabel => List.mem_cons_of_mem _ (List.mem_append_right _ hlabel)
  unfold declarationRule
  refine .ite (fun htyped => ?_) (.ite (fun htyped => ?_) (.ite (fun hsigil => ?_) ?_))
  · rw [Bool.and_eq_true] at htyped
    refine Suggestions.Among.mono ?_ hannotation
    rw [Dialect.annotationLabels, if_pos htyped.1]
    decide
  · rw [Bool.and_eq_true] at htyped
    refine Suggestions.Among.mono ?_ hannotation
    rw [Dialect.annotationLabels, if_pos htyped.1]
    decide
  · simp only [Bool.and_eq_true, Bool.not_eq_true'] at hsigil
    simp [Dialect.bracedDeclarationLabels, hsigil.1]
  refine .ite (fun _ => Suggestions.among_ofPairs ?_)
    (.ite (fun _ => Suggestions.among_ofPairs ?_) ?_)
  · intro hit hhit
    obtain ⟨i, hi, rfl⟩ := List.mem_mapIdx.1 hhit
    simp [Dialect.bracedDeclarationLabels]
  · refine Suggestions.among_cons.2 ⟨hassign, ?_⟩
    split
    · exact Suggestions.among_nil
    · next hend => simp [Dialect.bracedDeclarationLabels, hend]
  · exact .ite (fun _ => Suggestions.among_cons.2 ⟨hassign, Suggestions.among_nil⟩)
      Suggestions.among_nil

/-- In a language whose dots open containers, nothing but their size is named. -/
theorem callRule_among (dialect : Dialect) (line : Text) :
    (callRule dialect line).Among
      (if dialect.containerMembers then [".size()"]
        else dialect.memberLabels ++ dialect.callableLabels) := by
  unfold callRule
  split
  · exact .ite (fun _ => by simp) Suggestions.among_nil
  · exact Dialect.chainOrCall_among dialect line

end Braced

namespace Indented

theorem loopRule_among (line : Text) :
    (loopRule line).Among ["i", "in", "enumerate", "zip", "range"] := by
  unfold loopRule
  refine .ite (fun _ => by decide) (.ite (fun _ => by decide) ?_)
  exact .ite (fun _ => by decide) (.ite (fun _ => by decide) (by decide))

theorem terminatorRule_among (line : Text) : (terminatorRule line).Among [":"] := by
  unfold terminatorRule
  exact .ite (fun _ => by decide) (.ite (fun _ => by decide) (by decide))

theorem declarationRule_among (reserved : Text → Bool) (line : Text) :
    (declarationRule reserved line).Among ["==", "!=", "in", "=", "+="] := by
  unfold declarationRule
  exact .ite (fun _ => by decide) (.ite (fun _ => by decide) (by decide))

end Indented

namespace GoIdiom

theorem loopRule_among (line : Text) : (loopRule line).Among [":=", "range", "0"] := by
  unfold loopRule
  exact .ite (fun _ => by decide) (.ite (fun _ => by decide) (by decide))

theorem terminatorRule_among (line : Text) : (terminatorRule line).Among ["\x7b"] := by
  unfold terminatorRule
  exact .ite (fun _ => by decide) (.ite (fun _ => by decide) (by decide))

theorem declarationRule_among (reserved : Text → Bool) (line : Text) :
    (declarationRule reserved line).Among ["name", "int", "string", "=", ":="] := by
  unfold declarationRule
  refine .ite (fun _ => by decide) (.ite (fun _ => by decide) ?_)
  exact .ite (fun _ => by decide) (by decide)

end GoIdiom

namespace RustIdiom

theorem loopRule_among (line : Text) : (loopRule line).Among ["in", "0"] := by
  unfold loopRule
  exact .ite (fun _ => by decide) (.ite (fun _ => by decide) (by decide))

theorem terminatorRule_among (line : Text) : (terminatorRule line).Among ["\x7b", ";"] := by
  unfold terminatorRule
  refine .ite (fun _ => by decide) (.ite (fun _ => by decide) ?_)
  exact .ite (fun _ => by decide) (by decide)

theorem declarationRule_among (line : Text) :
    (declarationRule line).Among ["mut", "name", "i32", "String", "Vec", ":", "="] := by
  unfold declarationRule
  refine .ite (fun _ => by decide) (.ite (fun _ => by decide) ?_)
  exact .ite (fun _ => by decide) (.ite (fun _ => by decide) (by decide))

theorem callRule_among (line : Text) : (callRule line).Among ["("] := by
  unfold callRule
  exact .ite (fun _ => by decide) (by decide)

end RustIdiom

/-! ## The cascade of a language -/

namespace Dialect

open Suggestions

/-- **No rule names a label that is not listed for it.** -/
theorem rule_among (dialect : Dialect) (reserved : Text → Bool) (name : RuleName) (line : Text) :
    (dialect.rule reserved name line).Among (dialect.labels name) := by
  have hform := dialect.ruleForm reserved name
  generalize dialect.rule reserved name = rule at hform ⊢
  cases hform with
  | plain => exact among_nil
  | indentedLoop hfamily => simpa only [labels, hfamily] using Indented.loopRule_among line
  | bracedLoop hfamily => simpa only [labels, hfamily] using Braced.loopRule_among dialect line
  | goLoop hfamily => simpa only [labels, hfamily] using GoIdiom.loopRule_among line
  | rustLoop hfamily => simpa only [labels, hfamily] using RustIdiom.loopRule_among line
  | iterableCall hfamily =>
    unfold labels
    cases hplain : dialect.family with
    | plain => exact absurd hplain hfamily
    | indented | braced | go | rust => exact closeCall_among dialect _ line
  | indentedTerminator hfamily =>
    simpa only [labels, hfamily] using Indented.terminatorRule_among line
  | bracedTerminator hfamily =>
    simpa only [labels, hfamily] using Braced.terminatorRule_among dialect line
  | goTerminator hfamily => simpa only [labels, hfamily] using GoIdiom.terminatorRule_among line
  | rustTerminator hfamily => simpa only [labels, hfamily] using RustIdiom.terminatorRule_among line
  | indentedDeclaration hfamily =>
    simpa only [labels, hfamily] using Indented.declarationRule_among reserved line
  | bracedDeclaration hfamily =>
    simpa only [labels, hfamily] using Braced.declarationRule_among dialect reserved line
  | goDeclaration hfamily =>
    simpa only [labels, hfamily] using GoIdiom.declarationRule_among reserved line
  | rustDeclaration hfamily =>
    simpa only [labels, hfamily] using RustIdiom.declarationRule_among line
  | chainOrCall hfamily =>
    rcases hfamily with hfamily | hfamily
    · simpa only [labels, hfamily] using chainOrCall_among dialect line
    · simpa only [labels, hfamily] using chainOrCall_among dialect line
  | bracedCall hfamily => simpa only [labels, hfamily] using Braced.callRule_among dialect line
  | rustCall hfamily => simpa only [labels, hfamily] using RustIdiom.callRule_among line
  | memberChain => exact memberChain_among dialect line
  | callableAtEnd => exact callableAtEnd_among dialect line
  | openCall => exact closeCall_among dialect _ line

end Dialect

namespace Cascade

/-- What is suggested is suggested by a rule. -/
theorem exists_rule_of_mem_suggestions {cascade : Cascade} {line : Text} {hit : Text × Score}
    (h : hit ∈ cascade.suggestions line) : ∃ rule ∈ cascade.rules, hit ∈ rule line := by
  obtain ⟨rules⟩ := cascade
  suffices ∀ hits : Suggestions,
      hit ∈ rules.foldl (fun hits rule => hits.merge (rule line)) hits →
      hit ∈ hits ∨ ∃ rule ∈ rules, hit ∈ rule line from
    (this [] h).resolve_left List.not_mem_nil
  clear h
  induction rules with
  | nil => exact fun hits hhit => .inl hhit
  | cons rule rules ih =>
    intro hits hhit
    rcases ih _ hhit with hmerged | ⟨later, hlater, hhit⟩
    · -- merging takes over the hits before it and some of those of the rule
      rcases List.mem_append.1 hmerged with hbefore | hnew
      · exact .inl hbefore
      · exact .inr ⟨rule, List.mem_cons_self, (List.mem_filter.1 hnew).1⟩
    · exact .inr ⟨later, List.mem_cons_of_mem _ hlater, hhit⟩

/-- A label with a confidence scores. -/
theorem score_ne_zero_of_pos {cascade : Cascade} {line label : Text}
    (h : 0 < cascade.score line label) : cascade.score line label ≠ 0 := by
  intro hzero
  rw [hzero] at h
  exact Rat.lt_irrefl h

/-- A label that scores is suggested. -/
theorem mem_suggestions_of_score_ne_zero {cascade : Cascade} {line label : Text}
    (h : cascade.score line label ≠ 0) :
    (label, cascade.score line label) ∈ cascade.suggestions line := by
  rw [score, Suggestions.confidence] at h ⊢
  cases hfound : (cascade.suggestions line).lookup label with
  | none =>
    rw [hfound] at h
    exact absurd rfl h
  | some value => exact Assoc.mem_of_lookup hfound

/-- **A label that scores is listed for the rule that names it.** -/
theorem exists_rule_of_score_ne_zero {key line label : Text}
    (h : (forKey key).score line label ≠ 0) :
    ∃ language dialect name, (language, dialect) ∈ builtIn ∧ name ∈ dialect.order ∧
      (label, (forKey key).score line label) ∈ dialect.rule language.isReserved name line ∧
      label ∈ dialect.labels name := by
  obtain ⟨rule, hrule, hhit⟩ := exists_rule_of_mem_suggestions (mem_suggestions_of_score_ne_zero h)
  unfold forKey at hrule
  split at hrule
  · next language dialect hfound =>
    obtain ⟨name, hname, rfl⟩ := List.mem_map.1 hrule
    exact ⟨language, dialect, name, List.mem_of_find?_eq_some hfound, hname, hhit,
      dialect.rule_among _ name line _ hhit⟩
  · cases hrule

end Cascade

end CodeKeyboard
