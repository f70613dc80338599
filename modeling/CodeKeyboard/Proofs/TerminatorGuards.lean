import CodeKeyboard.Proofs.TypedSpace

/-!
# Where no terminator is suggested

A semicolon, a colon and an opening brace stand at the end of something: of a statement, a header, a
part of a loop, the name in a declaration. While a parenthesis is open no header is complete, so
neither the colon nor the brace is suggested; the semicolon is, between the parts of a loop. And
after a line that ends in one of the three, blanks disregarded, the same one is not suggested again.

The terminator rules ask for both before they look at anything else, but for the headers of
languages with braces. The rules for loops and for declarations name the three labels too and ask
for neither. There the patterns do it: what they match ends in a value or in a name, and what stands
before a colon has no parenthesis in it.

- `Pattern.exists_class_of_madeOf`: a check on the characters that the texts of a pattern have.
- `exists_last_of_ending`: what a line ends with by the last part of its pattern.
- `Dialect.guards_of_mem_terminator`, `Braced.endsInNoStop_of_loopRule`,
  `Braced.guards_of_mem_declarationRule`, `RustIdiom.guards_of_mem_declarationRule`: what each of
  the rules asks for.
- `Cascade.names_stop`: no other rule of a built-in language names one of the three.
- `Cascade.no_stop_where_it_cannot_stand`: where they score nothing.
-/

namespace CodeKeyboard

open Text Pattern Phrase

/-! ## Characters of a pattern -/

namespace Pattern

/-- Every character of every text of the pattern is of a class that passes the check. -/
def madeOf (check : CharClass → Bool) : Pattern → Bool
  | never => true
  | nothing => true
  | one a => check a
  | seq p q => p.madeOf check && q.madeOf check
  | alt p q => p.madeOf check && q.madeOf check
  | many p => p.madeOf check

/-- **What the check means** for a text of the pattern. -/
theorem exists_class_of_madeOf {check : CharClass → Bool} {p : Pattern}
    (h : p.madeOf check = true) {s : Text} (hmatch : Matches p s) {c : Char} (hc : c ∈ s) :
    ∃ a, check a = true ∧ a.contains c = true := by
  induction hmatch with
  | nothing | done => cases hc
  | @one a d hd =>
    obtain rfl : c = d := List.mem_singleton.1 hc
    exact ⟨a, h, hd⟩
  | seq _ _ ihp ihq =>
    rw [madeOf, Bool.and_eq_true] at h
    exact (List.mem_append.1 hc).elim (ihp h.1) (ihq h.2)
  | left _ ih =>
    rw [madeOf, Bool.and_eq_true] at h
    exact ih h.1 hc
  | right _ ih =>
    rw [madeOf, Bool.and_eq_true] at h
    exact ih h.2 hc
  | more _ _ ihp ihm => exact (List.mem_append.1 hc).elim (ihp h) (ihm h)

/-- A text of a pattern has no character that none of its classes has. -/
theorem not_mem_of_accepts {p : Pattern} {c : Char}
    (h : p.madeOf (fun a => !a.contains c) = true) {s : Text} (haccepts : p.accepts s = true) :
    c ∉ s := by
  intro hc
  obtain ⟨a, hcheck, ha⟩ := exists_class_of_madeOf h (accepts_iff.1 haccepts) hc
  rw [ha] at hcheck
  cases hcheck

theorem matches_chain_append {ps qs : List Pattern} {s : Text} :
    Matches (chain (ps ++ qs)) s ↔
      ∃ t u, Matches (chain ps) t ∧ Matches (chain qs) u ∧ s = t ++ u := by
  induction ps generalizing s with
  | nil => simp
  | cons p ps ih =>
    simp only [List.cons_append, matches_chain_cons, ih]
    constructor
    · rintro ⟨t, _, ht, ⟨u, v, hu, hv, rfl⟩, rfl⟩
      exact ⟨t ++ u, v, ⟨t, u, ht, hu, rfl⟩, hv, (List.append_assoc t u v).symm⟩
    · rintro ⟨_, v, ⟨t, u, ht, hu, rfl⟩, hv, rfl⟩
      exact ⟨t, u ++ v, ht, ⟨u, v, hu, hv, rfl⟩, List.append_assoc t u v⟩

theorem matches_indented_append {ps qs : List Pattern} {s : Text} :
    Matches (indented (ps ++ qs)) s ↔
      ∃ t u, Matches (indented ps) t ∧ Matches (chain qs) u ∧ s = t ++ u := by
  simp only [matches_indented, matches_chain_append]
  constructor
  · rintro ⟨indent, _, hindent, ⟨t, u, ht, hu, rfl⟩, rfl⟩
    exact ⟨indent ++ t, u, ⟨indent, t, hindent, ht, rfl⟩, hu, (List.append_assoc indent t u).symm⟩
  · rintro ⟨_, u, ⟨indent, t, hindent, ht, rfl⟩, hu, rfl⟩
    exact ⟨indent, t ++ u, hindent, ⟨t, u, ht, hu, rfl⟩, List.append_assoc indent t u⟩

end Pattern

/-! ## The end of a line -/

/-- The end of a name, of a condition or of a group: a word character, the sign that names may hold,
or the closing parenthesis. -/
def closes (c : Char) : Bool :=
  isWord c || c == '$' || c == ')'

/-- The class has only such characters, as far as its form tells. -/
def CharClass.isClosing : CharClass → Bool
  | single c => closes c
  | range first last =>
    ('A'.toNat ≤ first.toNat && last.toNat ≤ 'Z'.toNat) ||
      ('a'.toNat ≤ first.toNat && last.toNat ≤ 'z'.toNat)
  | word => true
  | either a b => a.isClosing && b.isClosing
  | any | blank | outside _ => false

theorem CharClass.closes_of_isClosing {a : CharClass} (h : a.isClosing = true) {c : Char}
    (hc : a.contains c = true) : closes c = true := by
  induction a with
  | any | blank | outside => cases h
  | single d =>
    obtain rfl : c = d := beq_iff_eq.1 hc
    exact h
  | word => simp [closes, show isWord c = true from hc]
  | either a b iha ihb =>
    rw [isClosing, Bool.and_eq_true] at h
    exact (Bool.or_eq_true_iff.1 hc).elim (iha h.1) (ihb h.2)
  | range first last =>
    have hletters : ∀ k < 123, 65 ≤ k ∧ k ≤ 90 ∨ 97 ≤ k → closes (Char.ofNat k) = true := by
      decide +kernel
    have hA : 'A'.toNat = 65 := rfl
    have hZ : 'Z'.toNat = 90 := rfl
    have ha : 'a'.toNat = 97 := rfl
    have hz : 'z'.toNat = 122 := rfl
    simp only [isClosing, contains, Bool.or_eq_true, Bool.and_eq_true, decide_eq_true_eq] at h hc
    have hcloses := hletters c.toNat (by omega) (by omega)
    rwa [Char.ofNat_toNat] at hcloses

theorem isBlank_of_closes {c : Char} (h : closes c = true) : isBlank c = false := by
  rw [Bool.eq_false_iff]
  intro hblank
  simp only [closes, isWord_of_isBlank hblank, Bool.false_or, Bool.or_eq_true, beq_iff_eq] at h
  obtain rfl | rfl := h <;> exact absurd hblank (by decide)

/-- **What a line ends with** by the last part of its pattern. -/
theorem exists_last_of_ending (ps : List Pattern) {ending : Pattern} {s : Text}
    (hends : ending.endsIn CharClass.isClosing = true) (hne : ending.acceptsEmpty = false)
    (h : Matches (indented (ps ++ [ending])) s) :
    ∃ c, closes c = true ∧ s.getLast? = some c := by
  obtain ⟨front, t, -, ht, rfl⟩ := matches_indented_append.1 h
  have hending : Matches ending t := ht
  have hne : t ≠ [] := by
    rintro rfl
    rw [acceptsEmpty_iff.2 hending] at hne
    cases hne
  obtain ⟨c, hlast⟩ := Option.ne_none_iff_exists'.1 (mt List.getLast?_eq_none_iff.1 hne)
  obtain ⟨a, ha, hc⟩ := exists_class_of_endsIn hends hending hlast
  refine ⟨c, CharClass.closes_of_isClosing ha hc, ?_⟩
  rw [List.getLast?_append, hlast, Option.some_or]

/-- Blanks after it are disregarded. -/
theorem exists_last_of_ending_blanks (ps : List Pattern) {ending : Pattern} {line : Text}
    (hends : ending.endsIn CharClass.isClosing = true) (hne : ending.acceptsEmpty = false)
    (h : Matches (indented (ps ++ [ending] ++ [blanks])) line) :
    ∃ c, closes c = true ∧ (trimEnd line).getLast? = some c := by
  obtain ⟨s, w, hs, hw, rfl⟩ := matches_indented_append.1 h
  obtain ⟨c, hcloses, hlast⟩ := exists_last_of_ending ps hends hne hs
  refine ⟨c, hcloses, ?_⟩
  rw [trimEnd_append_of_allBlank (matches_blanks.1 hw),
    trimEnd_of_getLast? hlast (isBlank_of_closes hcloses), hlast]

/-- The three labels that stand at the end of something, each a character. -/
def stops : List Char := [';', ':', '\x7b']

/-- The line ends in none of them, blanks disregarded. -/
def EndsInNoStop (line : Text) : Prop :=
  ∀ c ∈ stops, (trimEnd line).getLast? ≠ some c

theorem endsInNoStop_of_closes {line : Text}
    (h : ∃ c, closes c = true ∧ (trimEnd line).getLast? = some c) : EndsInNoStop line := by
  obtain ⟨c, hcloses, hlast⟩ := h
  intro stop hstop hsame
  obtain rfl : c = stop := Option.some.inj (hlast.symm.trans hsame)
  have hnone : stops.all (fun stop => !closes stop) = true := by decide
  have hstop := List.all_eq_true.1 hnone c hstop
  rw [hcloses] at hstop
  cases hstop

theorem endsInNoStop_of_endsInValue {line : Text} (h : endsInValue (trimEnd line) = true) :
    EndsInNoStop line := by
  intro stop hstop hlast
  have hnone : stops.all (fun stop => !endsValue stop) = true := by decide
  have hstop := List.all_eq_true.1 hnone stop hstop
  rw [endsInValue, hlast, Option.any_some] at h
  rw [h] at hstop
  cases hstop

namespace Bracket

/-- Blanks at the end of a line open and close nothing. -/
theorem unclosed_append_of_allBlank {w : Text} (hw : allBlank w = true) (line : Text) :
    unclosed (line ++ w) = unclosed line := by
  induction w generalizing line with
  | nil => rw [List.append_nil]
  | cons c w ih =>
    rw [allBlank, List.all_cons, Bool.and_eq_true] at hw
    rw [List.append_cons, ih hw.2, unclosed_append_blank hw.1]

theorem unclosed_trimEnd (line : Text) : unclosed (trimEnd line) = unclosed line := by
  obtain ⟨w, hw, hline⟩ := exists_trimEnd_append line
  conv_rhs => rw [hline, unclosed_append_of_allBlank hw]

/-- A line without a call in progress has no parenthesis open. -/
theorem not_mem_unclosed_of_openCall {line : Text} (h : (openCall line).isSome = false)
    (place : Nat) : (place, round) ∉ unclosed line := by
  rw [Option.isSome_eq_false_iff, Option.isNone_iff_eq_none] at h
  exact openCall_eq_none_iff.1 h place

/-- A line without an opening parenthesis has none open. -/
theorem not_mem_unclosed_of_not_mem {line : Text} (h : '(' ∉ line) (place : Nat) :
    (place, round) ∉ unclosed line := by
  intro hopen
  exact h (List.mem_of_getElem? (mem_unclosed_iff.1 hopen).opens.2)

end Bracket

/-! ## What the rules ask for -/

variable {dialect : Dialect} {line s : Text} {hit : Text × Score}

namespace Braced

/-- A header ends in a parenthesis or in a word. -/
theorem exists_last_of_isHeader (h : isHeader dialect s = true) :
    ∃ c, closes c = true ∧ s.getLast? = some c := by
  have hgroup : parenthesised.endsIn CharClass.isClosing = true := by decide
  simp only [isHeader, Bool.or_eq_true, Bool.and_eq_true, accepts_iff] at h
  obtain (hheader | hbare) | ⟨hfunction, -⟩ := h
  · exact exists_last_of_ending [closedBefore, _, blanks] hgroup rfl hheader
  · exact exists_last_of_ending [closedBefore] (by decide) rfl hbare
  · exact exists_last_of_ending [modifiers, oneOfTexts _, typeParameters, gap, _, blanks]
      hgroup rfl hfunction

/-- A semicolon in a loop comes after a value or after the condition. -/
theorem endsInNoStop_of_loopRule {confidence : Score}
    (hwords : ";".toList ∉ [dialect.loopDeclarator, dialect.eachDeclarator, dialect.membership])
    (h : (";".toList, confidence) ∈ loopRule dialect line) : EndsInNoStop line := by
  simp only [List.mem_cons, List.not_mem_nil, or_false, not_or] at hwords
  obtain ⟨hloop, heach, hmember⟩ := hwords
  by_cases hinitial : (loopInitial.accepts line && endsInValue (trimEnd line)) = true
  · exact endsInNoStop_of_endsInValue (Bool.and_eq_true_iff.1 hinitial).2
  by_cases hcompared : loopCompared.accepts line = true
  · exact endsInNoStop_of_closes (exists_last_of_ending_blanks
      [text "for", blanks, text "(", many (one noSemicolon), text ";", many (one noSemicolon)]
      (by decide) rfl (accepts_iff.1 hcompared))
  -- the other parts of a loop are other labels
  rw [loopRule, if_neg hinitial, if_neg hcompared] at h
  split_ifs at h <;> simp_all [Suggestions.sure]

/-- The labels that name or type the declared thing, or assign to it. -/
def plainLabels (dialect : Dialect) : List Text :=
  dialect.nameLabels ++ (["string", "number", "boolean", "name", "="] : List Text)

/-- The labels of a declaration: those after a name that may have a type, what ends the statement
after a name with its type, and the others. -/
theorem mem_declarationRule {reserved : Text → Bool}
    (h : hit ∈ declarationRule dialect reserved line) :
    typeOpen.accepts line = true ∨
      (declarationNamed dialect.typeWords).accepts line = true ∧ hit.1 = dialect.endOfStatement ∨
      hit.1 ∈ plainLabels dialect := by
  have hplain {hits : Suggestions} (hhits : hits.Among (plainLabels dialect)) (hmem : hit ∈ hits) :
      hit.1 ∈ plainLabels dialect := hhits hit hmem
  have hassign : "=".toList ∈ plainLabels dialect := by simp [plainLabels]
  unfold declarationRule at h
  dsimp only at h
  split_ifs at h with hawaited hopen hsigil hstart hnamed hend hbare
  · exact .inr (.inr (hplain (by simp [plainLabels]) h))
  · exact .inl (Bool.and_eq_true_iff.1 hopen).2
  · exact .inr (.inr (hplain (by simp [plainLabels]) h))
  · refine .inr (.inr (hplain (Suggestions.among_ofPairs fun entry hentry => ?_) h))
    obtain ⟨i, hi, rfl⟩ := List.mem_mapIdx.1 hentry
    simp [plainLabels]
  · exact .inr (.inr (hplain
      (Suggestions.among_ofPairs (Suggestions.among_cons.2 ⟨hassign, Suggestions.among_nil⟩)) h))
  · have hpairs : Suggestions.Among [("=", 1), (dialect.endOfStatement, Score.hundredths 80)]
        ["=", dialect.endOfStatement] := by simp
    obtain hequals | hends := List.mem_pair.1 (Suggestions.among_ofPairs hpairs hit h)
    · exact .inr (.inr (hequals ▸ hassign))
    · exact .inr (.inl ⟨hnamed, hends⟩)
  · exact .inr (.inr (hplain (Suggestions.among_cons.2 ⟨hassign, Suggestions.among_nil⟩) h))
  · cases h

/-- **What stands before the three labels in a declaration**: a name, and no parenthesis before
those that do not end the statement. -/
theorem guards_of_mem_declarationRule {reserved : Text → Bool}
    (h : hit ∈ declarationRule dialect reserved line) (hplain : hit.1 ∉ plainLabels dialect) :
    EndsInNoStop line ∧ (hit.1 ≠ dialect.endOfStatement → '(' ∉ line) := by
  have hends : dollarName.endsIn CharClass.isClosing = true := by decide
  obtain hopen | ⟨hnamed, hend⟩ | hother := mem_declarationRule h
  · refine ⟨endsInNoStop_of_closes ?_, fun _ => not_mem_of_accepts (by decide) hopen⟩
    exact exists_last_of_ending_blanks [_, gap] hends rfl (accepts_iff.1 hopen)
  · refine ⟨endsInNoStop_of_closes ?_, fun hother => absurd hend hother⟩
    exact exists_last_of_ending_blanks [modifiers, typeOf _, gap] hends rfl (accepts_iff.1 hnamed)
  · exact absurd hother hplain

end Braced

/-- A colon in a binding comes after its name. -/
theorem RustIdiom.guards_of_mem_declarationRule {confidence : Score}
    (h : (":".toList, confidence) ∈ declarationRule line) : EndsInNoStop line ∧ '(' ∉ line := by
  by_cases hnamed : (bindingNamed []).accepts line = true
  · refine ⟨endsInNoStop_of_closes ?_, not_mem_of_accepts (by decide) hnamed⟩
    exact exists_last_of_ending_blanks [text "let", gap, optional (seq (text "mut") gap)]
      (by decide) rfl (accepts_iff.1 hnamed)
  · rw [declarationRule, if_neg hnamed] at h
    split_ifs at h <;> simp [Suggestions.sure] at h

namespace Dialect

/-- What is suggested where nothing is if a guard holds. -/
theorem mem_of_guard {guard : Bool} {hits : Suggestions}
    (h : hit ∈ if guard then [] else hits) : guard = false ∧ hit ∈ hits := by
  split at h
  · cases h
  · next hguard => exact ⟨Bool.eq_false_iff.2 hguard, h⟩

/-- A rule that refuses lines with a call in progress and lines that end in some characters: among
these characters are those of the three labels that it names. -/
theorem guards_of_mem {chars : Text} {labels : List Text} {empty opened : Bool}
    {hits : Suggestions} (hchars : (stops.all fun c => [c] ∉ labels || c ∈ chars) = true)
    (hlabel : hit.1 ∈ labels)
    (h : hit ∈ if empty || endsInOneOf chars s || opened then [] else hits) :
    opened = false ∧ ∀ c ∈ stops, hit.1 = [c] → s.getLast? ≠ some c := by
  obtain ⟨hguard, -⟩ := mem_of_guard h
  simp only [Bool.or_eq_false_iff] at hguard
  refine ⟨hguard.2, fun c hc hsame => ?_⟩
  have hlisted := List.all_eq_true.1 hchars c hc
  rw [hsame] at hlabel
  simp only [hlabel, not_true, decide_false, Bool.false_or, decide_eq_true_eq] at hlisted
  exact getLast?_ne_of_endsInOneOf hlisted hguard.1.2

/-- **What the terminator rule asks for**: no parenthesis is open, and the line does not end in the
label. -/
theorem guards_of_mem_terminator {reserved : Text → Bool}
    (h : hit ∈ dialect.rule reserved .terminator line) :
    (Bracket.openCall (trimEnd line)).isSome = false ∧
      ∀ c ∈ stops, hit.1 = [c] → (trimEnd line).getLast? ≠ some c := by
  obtain ⟨rule, hform, h⟩ := exists_ruleForm_of_mem h
  cases hform with
  | plain => cases h
  | indentedTerminator =>
    exact guards_of_mem (by decide) (Indented.terminatorRule_among line hit h) h
  | goTerminator =>
    exact guards_of_mem (by decide) (GoIdiom.terminatorRule_among line hit h) h
  | rustTerminator =>
    exact guards_of_mem (by decide) (RustIdiom.terminatorRule_among line hit h) h
  | bracedTerminator =>
    obtain ⟨hguard, h⟩ := mem_of_guard h
    rw [Bool.or_eq_false_iff] at hguard
    refine ⟨hguard.2, fun c hc _ => ?_⟩
    by_cases hheader : Braced.isHeader dialect (trimEnd line) = true
    · -- this rule looks at the end of the line only after it has looked for headers
      exact endsInNoStop_of_closes (Braced.exists_last_of_isHeader hheader) c hc
    · rw [if_neg hheader] at h
      obtain ⟨hgoesOn, -⟩ := mem_of_guard h
      rw [Bool.or_eq_false_iff] at hgoesOn
      have hstops : stops.all (· ∈ Braced.goesOn) = true := by decide
      have hmem : c ∈ Braced.goesOn := of_decide_eq_true (List.all_eq_true.1 hstops c hc)
      exact getLast?_ne_of_endsInOneOf hmem hgoesOn.2

end Dialect

namespace Cascade

/-- **Which rules name the three labels**: the terminator rule; in languages with braces the rules
for loops, the semicolon only, and for declarations; in Rust the rule for bindings, the colon. -/
theorem names_stop :
    ∀ entry ∈ builtIn, ∀ name ∈ entry.2.order, ∀ label ∈ stops.map ([·]),
      label ∈ entry.2.labels name →
        name = .terminator ∨
        name = .loopHeader ∧ entry.2.family = .braced ∧ label = ";".toList ∧
          label ∉ [entry.2.loopDeclarator, entry.2.eachDeclarator, entry.2.membership] ∨
        name = .declaration ∧ label ∉ Braced.plainLabels entry.2 ∧
          (entry.2.family = .braced ∧ (label ≠ ";".toList → label ≠ entry.2.endOfStatement) ∨
            entry.2.family = .rust ∧ label = ":".toList) := by
  decide +kernel

/-- **What the rules ask for before they name one of the three**: the line does not end in it, and
for a colon or a brace no parenthesis is open. -/
theorem guards_of_score_ne_zero {key line : Text} {c : Char} (hc : c ∈ stops)
    (h : (forKey key).score line [c] ≠ 0) :
    (trimEnd line).getLast? ≠ some c ∧
      (c ≠ ';' → ∀ place, (place, .round) ∉ Bracket.unclosed line) := by
  obtain ⟨language, dialect, name, hbuiltIn, hname, hhit, hlisted⟩ := exists_rule_of_score_ne_zero h
  have hstop := names_stop _ hbuiltIn name hname [c] (List.mem_map_of_mem hc) hlisted
  dsimp only at hstop
  obtain rfl | ⟨rfl, hbraced, hsemicolon, hwords⟩ |
    ⟨rfl, hplain, ⟨hbraced, hgoesOn⟩ | ⟨hrust, hcolon⟩⟩ := hstop
  · obtain ⟨hopened, hends⟩ := Dialect.guards_of_mem_terminator hhit
    refine ⟨hends c hc rfl, fun _ place => ?_⟩
    rw [← Bracket.unclosed_trimEnd]
    exact Bracket.not_mem_unclosed_of_openCall hopened place
  · obtain rfl : c = ';' := List.singleton_inj.1 hsemicolon
    simp only [Dialect.rule, hbraced] at hhit
    have hends := Braced.endsInNoStop_of_loopRule hwords hhit
    exact ⟨hends ';' hc, fun hother => absurd rfl hother⟩
  · simp only [Dialect.rule, hbraced] at hhit
    obtain ⟨hends, hopened⟩ := Braced.guards_of_mem_declarationRule hhit hplain
    refine ⟨hends c hc, fun hother => Bracket.not_mem_unclosed_of_not_mem (hopened ?_)⟩
    exact hgoesOn fun hsemicolon => hother (List.singleton_inj.1 hsemicolon)
  · obtain rfl : c = ':' := List.singleton_inj.1 hcolon
    simp only [Dialect.rule, hrust] at hhit
    obtain ⟨hends, hopened⟩ := RustIdiom.guards_of_mem_declarationRule hhit
    exact ⟨hends ':' hc, fun _ => Bracket.not_mem_unclosed_of_not_mem hopened⟩

/-- **Where no terminator and no opener is suggested**, in any language. On a line with an open
parenthesis outside of quotes the brace and the colon score nothing. On a line whose last visible
character is a semicolon, a colon or a brace, the label that is this character scores nothing. -/
theorem no_stop_where_it_cannot_stand (key line : Text) :
    ((∃ place, (place, .round) ∈ Bracket.unclosed line) →
        (forKey key).score line "\x7b" = 0 ∧ (forKey key).score line ":" = 0) ∧
      ∀ c ∈ stops, (trimEnd line).getLast? = some c → (forKey key).score line [c] = 0 := by
  constructor
  · rintro ⟨place, hopen⟩
    have hsilent {c : Char} (hc : c ∈ stops) (hother : c ≠ ';') :
        (forKey key).score line [c] = 0 := by
      by_contra hscore
      exact (guards_of_score_ne_zero hc hscore).2 hother place hopen
    exact ⟨hsilent (by decide) (by decide), hsilent (by decide) (by decide)⟩
  · intro c hc hlast
    by_contra hscore
    exact (guards_of_score_ne_zero hc hscore).1 hlast

/-- In the header of a loop the semicolon is suggested once, and the brace not before the header is
complete. -/
theorem no_stop_where_it_cannot_stand_in_loop :
    (forKey Language.typeScript.key).score "for (let i = 0; " "\x7b" = 0 ∧
      (forKey Language.typeScript.key).score "for (let i = 0; " ";" = 0 ∧
      (forKey Language.typeScript.key).score "for (let i = 0" ";" = 1 := by
  obtain ⟨hopen, hlast⟩ := no_stop_where_it_cannot_stand Language.typeScript.key "for (let i = 0; "
  exact ⟨(hopen ⟨4, by decide +kernel⟩).1, hlast ';' (by decide) (by decide +kernel),
    by decide +kernel⟩

end Cascade

end CodeKeyboard
