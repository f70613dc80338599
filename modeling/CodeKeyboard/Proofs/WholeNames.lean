import CodeKeyboard.Proofs.TerminatorGuards

/-!
# Names recognised at the end of a line

Two tables of a dialect name what is called: the beginnings of dotted names, after which the members
are suggested, and the names of calls, after which the parenthesis is. Both are looked for at the
end of the line, and what stands before them tells whether a longer name ends there.

For a call the pattern says what may stand before it, and none of that belongs to a name. Before the
beginning of a dotted name only letters and digits are excluded. So the members are suggested after
an underscore too, where a longer name ends as the beginning does.

- `Dialect.calleeAtEnd_of_mem`: where the parenthesis is suggested a whole name of a call ends.
- `Dialect.callOpening_append`: what is suggested after the beginning of a dotted name.
- `Cascade.called_names_whole_iff`: so the underscore is the one exception.
-/

namespace CodeKeyboard

open Text Pattern

/-- The text ends in a letter, a digit or an underscore, so a name may go on after it. -/
def EndsInName (s : Text) : Prop :=
  ∃ c, s.getLast? = some c ∧ isWord c = true

instance decidableEndsInName (s : Text) : Decidable (EndsInName s) :=
  decidable_of_iff (s.getLast?.any isWord = true) (by simp [EndsInName, Option.any_eq_true])

/-- A text that ends in none of the characters that belong to names. -/
theorem not_endsInName_of_matches {p : Pattern} (h : p.endsIn CharClass.isOffWord = true) {s : Text}
    (hmatch : Matches p s) : ¬ EndsInName s := by
  rintro ⟨c, hlast, hword⟩
  obtain ⟨a, ha, hc⟩ := exists_class_of_endsIn h hmatch hlast
  rw [CharClass.contains_of_isOffWord ha hword] at hc
  cases hc

/-- It ends in a letter or a digit, or else in an underscore. -/
theorem endsInName_iff {s : Text} :
    EndsInName s ↔ s.getLast?.any isAlphanumeric = true ∨ s.getLast? = some '_' := by
  cases hlast : s.getLast? with
  | none => simp [EndsInName, hlast]
  | some c => simp [EndsInName, hlast, isWord]

theorem not_isAlphanumeric_of_underscore {s : Text} (h : s.getLast? = some '_') :
    s.getLast?.any isAlphanumeric = false := by
  rw [h]
  decide

namespace Dialect

variable {dialect : Dialect} {line : Text}

/-! ## The beginnings of dotted names -/

theorem endsInWhole_append (before ending : Text) :
    endsInWhole ending (before ++ ending) = !before.getLast?.any isAlphanumeric := by
  have hsuffix : ending.isSuffixOf (before ++ ending) = true :=
    List.isSuffixOf_iff_suffix.2 (List.suffix_append before ending)
  have hbefore : (before ++ ending).take ((before ++ ending).length - ending.length) = before := by
    simp
  rw [endsInWhole, hsuffix, hbefore, Bool.true_and]

/-- The beginnings of dotted names are told apart from each other and from the names of calls. -/
structure ChainsApart (dialect : Dialect) : Prop where
  /-- None of them ends as another does. -/
  suffix : ∀ chain ∈ dialect.memberChains, ∀ other ∈ dialect.memberChains,
    chain.1.isSuffixOf other.1 = true → chain = other
  /-- They end in a dot. -/
  dot : ∀ chain ∈ dialect.memberChains, chain.1.getLast? = some '.'
  /-- No name of a call does. -/
  call : dialect.callableEnd.endsIn (fun a => !a.contains '.') = true
  /-- They have members. -/
  members : ∀ chain ∈ dialect.memberChains, chain.2 ≠ []
  /-- Where there are any they are looked for. -/
  family : dialect.memberChains ≠ [] → dialect.family = .indented ∨ dialect.family = .go ∨
    dialect.family = .braced ∧ dialect.containerMembers = false

/-- **What is suggested after the beginning of a dotted name**: the members, unless a letter or a
digit stands before it. -/
theorem memberChain_append (hapart : dialect.ChainsApart) {chain : Text × Suggestions}
    (hchain : chain ∈ dialect.memberChains) (before : Text) :
    dialect.memberChain (before ++ chain.1) =
      if before.getLast?.any isAlphanumeric then [] else chain.2 := by
  -- another beginning found at the end of the line would end as this one does
  have honly : ∀ other ∈ dialect.memberChains,
      endsInWhole other.1 (before ++ chain.1) = true → other = chain := by
    intro other hother hwhole
    rw [endsInWhole, Bool.and_eq_true, List.isSuffixOf_iff_suffix] at hwhole
    obtain hshorter | hlonger :=
      List.suffix_or_suffix_of_suffix hwhole.1 (List.suffix_append before chain.1)
    · exact hapart.suffix other hother chain hchain (List.isSuffixOf_iff_suffix.2 hshorter)
    · exact (hapart.suffix chain hchain other hother (List.isSuffixOf_iff_suffix.2 hlonger)).symm
  unfold memberChain
  cases hfound : dialect.memberChains.find? fun other => endsInWhole other.1 (before ++ chain.1)
  with
  | some other =>
    have hwhole := List.find?_some hfound
    obtain rfl := honly other (List.mem_of_find?_eq_some hfound) hwhole
    rw [endsInWhole_append, Bool.not_eq_true'] at hwhole
    rw [hwhole]
    rfl
  | none =>
    have hmissing := List.find?_eq_none.1 hfound chain hchain
    rw [endsInWhole_append, Bool.not_eq_true', Bool.not_eq_false] at hmissing
    rw [hmissing]
    rfl

end Dialect

/-! ## The names of calls -/

/-- What may stand before a name: nothing, or anything that ends in a character of the class. -/
def leadIn (a : CharClass) : Pattern :=
  alt nothing (seq anything (one a))

/-- A pattern that looks for a name at the end of the line, or before the newline that ends it,
finds a whole one, if no character that may stand before it belongs to names. -/
theorem exists_whole_name_of_matches {a : CharClass} {ps : List Pattern} {line : Text}
    (ha : a.isOffWord = true) (h : Matches (chain (leadIn a :: (ps ++ [endOfLine]))) line) :
    ∃ before name ending, Matches (chain ps) name ∧ (ending = [] ∨ ending = ['\n']) ∧
      line = before ++ name ++ ending ∧ ¬ EndsInName before := by
  have hlead : (leadIn a).endsIn CharClass.isOffWord = true := by
    simp [leadIn, endsIn, acceptsEmpty, ha]
  obtain ⟨before, _, hbefore, htail, rfl⟩ := matches_chain_cons.1 h
  obtain ⟨name, ending, hname, hending, rfl⟩ := matches_chain_append.1 htail
  exact ⟨before, name, ending, hname, matches_endOfLine.1 hending,
    (List.append_assoc before name ending).symm, not_endsInName_of_matches hlead hbefore⟩

/-- The parts of the name of a macro. -/
def RustIdiom.macroName : List Pattern :=
  [one (CharClass.either (.range 'a' 'z') (.single '_')), many (one .word), text "!"]

namespace Dialect

variable {dialect : Dialect} {line : Text} {hit : Text × Score}

/-- The names after which a parenthesis opens: those the dialect knows, and in Rust any macro. -/
def IsCallee (dialect : Dialect) (name : Text) : Prop :=
  name ∈ dialect.callables ∨
    dialect.family = .rust ∧ (chain RustIdiom.macroName).accepts name = true

/-- At the end of the line, or before the newline that ends it, stands a whole name of a call. -/
def CalleeAtEnd (dialect : Dialect) (line : Text) : Prop :=
  ∃ before name ending, dialect.IsCallee name ∧ (ending = [] ∨ ending = ['\n']) ∧
    line = before ++ name ++ ending ∧ ¬ EndsInName before

theorem calleeAtEnd_of_callableEnd (h : dialect.callableEnd.accepts line = true) :
    dialect.CalleeAtEnd line := by
  have hmatch : Matches (chain (leadIn (CharClass.plus .blank "(=,[") ::
      ([oneOfTexts dialect.callables] ++ [endOfLine]))) line := accepts_iff.1 h
  obtain ⟨before, name, ending, hname, hrest⟩ := exists_whole_name_of_matches (by decide) hmatch
  exact ⟨before, name, ending, .inl (matches_oneOfTexts.1 hname), hrest⟩

theorem calleeAtEnd_of_macroEnd (hrust : dialect.family = .rust)
    (h : RustIdiom.macroEnd.accepts line = true) : dialect.CalleeAtEnd line := by
  have hmatch : Matches (chain (leadIn (CharClass.plus .blank "(=,") ::
      (RustIdiom.macroName ++ [endOfLine]))) line := accepts_iff.1 h
  obtain ⟨before, name, ending, hname, hrest⟩ := exists_whole_name_of_matches (by decide) hmatch
  exact ⟨before, name, ending, .inr ⟨hrust, accepts_iff.2 hname⟩, hrest⟩

/-- A parenthesis after a name is suggested where a whole name of a call ends. -/
theorem calleeAtEnd_of_mem {reserved : Text → Bool} {confidence : Score}
    (hmembers : "(".toList ∉ dialect.memberLabels)
    (h : ("(".toList, confidence) ∈ dialect.rule reserved .callOpening line) :
    dialect.CalleeAtEnd line := by
  have hchainOrCall (h : ("(".toList, confidence) ∈ dialect.chainOrCall line) :
      dialect.CalleeAtEnd line := by
    unfold chainOrCall callableAtEnd at h
    dsimp only at h
    split_ifs at h with hempty haccepts
    · exact calleeAtEnd_of_callableEnd haccepts
    · cases h
    · exact absurd (memberChain_among dialect line _ h) hmembers
  obtain ⟨rule, hform, h⟩ := exists_ruleForm_of_mem h
  cases hform with
  | plain => cases h
  | chainOrCall => exact hchainOrCall h
  | bracedCall =>
    unfold Braced.callRule at h
    split_ifs at h with hcontainer hdot
    · simp at h
    · cases h
    · exact hchainOrCall h
  | rustCall hfamily =>
    unfold RustIdiom.callRule at h
    split_ifs at h with hmacro
    · exact calleeAtEnd_of_macroEnd hfamily hmacro
    · cases h

/-- Where a beginning of a dotted name ends the line, the rule for calls suggests its members,
unless a letter or a digit stands before it. -/
theorem callOpening_append (reserved : Text → Bool) (hapart : dialect.ChainsApart)
    {chain : Text × Suggestions} (hchain : chain ∈ dialect.memberChains) (before : Text) :
    dialect.rule reserved .callOpening (before ++ chain.1) =
      if before.getLast?.any isAlphanumeric then [] else chain.2 := by
  have hcallable : dialect.callableAtEnd (before ++ chain.1) = [] := by
    obtain ⟨front, hfront⟩ := List.getLast?_eq_some_iff.1 (hapart.dot chain hchain)
    rw [callableAtEnd, hfront, ← List.append_assoc, accepts_append_singleton_eq_false hapart.call]
    rfl
  have hrule : dialect.rule reserved .callOpening = dialect.chainOrCall := by
    unfold rule
    obtain hfamily | hfamily | ⟨hfamily, hcontainer⟩ := hapart.family (List.ne_nil_of_mem hchain)
    · rw [hfamily]
    · rw [hfamily]
    · rw [hfamily]
      funext line
      simp [Braced.callRule, hcontainer]
  rw [hrule, chainOrCall, hcallable, ← memberChain_append hapart hchain before]
  -- where the first table has nothing the second one has nothing either
  split
  · next hempty => exact (List.isEmpty_iff.1 hempty).symm
  · rfl

end Dialect

namespace Cascade

variable {language : Language} {dialect : Dialect}

/-- In the built-in languages the beginnings of dotted names are told apart. -/
theorem chainsApart_of_mem_builtIn (hbuiltIn : (language, dialect) ∈ builtIn) :
    dialect.ChainsApart := by
  have hsuffix : ∀ entry ∈ builtIn, ∀ chain ∈ entry.2.memberChains,
      ∀ other ∈ entry.2.memberChains, chain.1.isSuffixOf other.1 = true → chain = other := by
    decide +kernel
  have hdot : ∀ entry ∈ builtIn, ∀ chain ∈ entry.2.memberChains,
      chain.1.getLast? = some '.' := by decide +kernel
  have hcall : ∀ entry ∈ builtIn,
      entry.2.callableEnd.endsIn (fun a => !a.contains '.') = true := by decide +kernel
  have hmembers : ∀ entry ∈ builtIn, ∀ chain ∈ entry.2.memberChains, chain.2 ≠ [] := by
    decide +kernel
  have hfamily : ∀ entry ∈ builtIn, entry.2.memberChains ≠ [] →
      entry.2.family = .indented ∨ entry.2.family = .go ∨
        entry.2.family = .braced ∧ entry.2.containerMembers = false := by decide +kernel
  exact ⟨hsuffix _ hbuiltIn, hdot _ hbuiltIn, hcall _ hbuiltIn, hmembers _ hbuiltIn,
    hfamily _ hbuiltIn⟩

/-- A member is never the parenthesis. -/
theorem parenthesis_not_mem_memberLabels :
    ∀ entry ∈ builtIn, "(".toList ∉ entry.2.memberLabels := by
  decide +kernel

/-- **When the names that are called are recognised as whole names**, in every built-in language.
After the beginning of a dotted name its members are suggested unless a letter or a digit stands
before it, so something is suggested after a part of a longer name just if an underscore does. A
parenthesis is suggested after whole names of calls only. -/
theorem called_names_whole_iff (hbuiltIn : (language, dialect) ∈ builtIn) (line : Text) :
    (∀ chain ∈ dialect.memberChains, ∀ before, line = before ++ chain.1 →
      dialect.rule language.isReserved .callOpening line =
          (if before.getLast?.any isAlphanumeric then [] else chain.2) ∧
        (dialect.rule language.isReserved .callOpening line ≠ [] ∧ EndsInName before ↔
          before.getLast? = some '_')) ∧
      ∀ confidence,
        ("(".toList, confidence) ∈ dialect.rule language.isReserved .callOpening line →
          dialect.CalleeAtEnd line := by
  refine ⟨fun chain hchain before hline => ?_, fun confidence hhit => ?_⟩
  · have hapart := chainsApart_of_mem_builtIn hbuiltIn
    have hsuggests := Dialect.callOpening_append language.isReserved hapart hchain before
    rw [← hline] at hsuggests
    refine ⟨hsuggests, ?_⟩
    rw [hsuggests, endsInName_iff]
    constructor
    · rintro ⟨hsome, hname | hunderscore⟩
      · exact absurd (if_pos hname) hsome
      · exact hunderscore
    · intro hunderscore
      rw [not_isAlphanumeric_of_underscore hunderscore]
      exact ⟨hapart.members chain hchain, .inr hunderscore⟩
  · exact Dialect.calleeAtEnd_of_mem (parenthesis_not_mem_memberLabels _ hbuiltIn) hhit

/-- After a parenthesis nothing of a longer name stands before the name of the module. -/
theorem called_names_whole_in_call :
    (Language.python, Dialect.python) ∈ builtIn ∧
      Dialect.python.rule Language.python.isReserved .callOpening "print(heapq." ≠ [] ∧
      ¬ EndsInName "print(" := by
  have hbuiltIn : (Language.python, Dialect.python) ∈ builtIn := .head _
  have hchain : ("heapq.".toList, [("heappush".toList, Score.hundredths 80),
      ("heappop".toList, Score.hundredths 75)]) ∈ Dialect.python.memberChains := .tail _ (.head _)
  have hsome : Dialect.python.rule Language.python.isReserved .callOpening "print(heapq." ≠ [] := by
    decide +kernel
  have hiff := ((called_names_whole_iff hbuiltIn "print(heapq.").1 _ hchain "print(" rfl).2
  refine ⟨hbuiltIn, hsome, fun hname => ?_⟩
  exact absurd (hiff.1 ⟨hsome, hname⟩) (by decide)

/-- The members of a module are suggested after a longer name that ends as its name does. -/
theorem members_suggested_in_longer_name :
    ("heapq.".toList, [("heappush".toList, Score.hundredths 80),
        ("heappop".toList, Score.hundredths 75)]) ∈ Dialect.python.memberChains ∧
      Dialect.python.rule Language.python.isReserved .callOpening
          ("my_".toList ++ "heapq.".toList) =
        [("heappush".toList, Score.hundredths 80), ("heappop".toList, Score.hundredths 75)] ∧
      EndsInName "my_" := by
  refine ⟨.tail _ (.head _), ?_⟩
  decide +kernel

end Cascade

end CodeKeyboard
