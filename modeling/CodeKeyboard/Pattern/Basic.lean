import CodeKeyboard.Pattern.CharClass

/-!
# Patterns of text

A `Pattern` is a regular expression over character classes, and `Matches` says which whole texts it
describes. There is no search, no anchor and no look-around: where a pattern may stand in a line is
said by what it is joined with (`anything` before it, `endOfLine` after it), so that every question
about a line is one question about a whole text.

The statements below give `Matches` form by form; a proof about a pattern rewrites with them and
never takes a derivation apart.
-/

namespace CodeKeyboard

/-- A regular expression over classes of characters. -/
inductive Pattern where
  /-- No text at all. -/
  | never
  /-- The empty text. -/
  | nothing
  /-- One character of a class. -/
  | one (a : CharClass)
  /-- A text of `p` followed by a text of `q`. -/
  | seq (p q : Pattern)
  /-- A text of `p` or a text of `q`. -/
  | alt (p q : Pattern)
  /-- Any number of texts of `p`, one after the other. -/
  | many (p : Pattern)
deriving DecidableEq, Repr

namespace Pattern

/-- The texts that a pattern describes. -/
inductive Matches : Pattern → Text → Prop
  | nothing : Matches nothing []
  | one {a : CharClass} {c : Char} (h : a.contains c = true) : Matches (one a) [c]
  | seq {p q : Pattern} {s t : Text} (hp : Matches p s) (hq : Matches q t) :
      Matches (seq p q) (s ++ t)
  | left {p q : Pattern} {s : Text} (h : Matches p s) : Matches (alt p q) s
  | right {p q : Pattern} {s : Text} (h : Matches q s) : Matches (alt p q) s
  | done {p : Pattern} : Matches (many p) []
  | more {p : Pattern} {s t : Text} (hp : Matches p s) (hm : Matches (many p) t) :
      Matches (many p) (s ++ t)

/-! ## Building patterns -/

/-- The parts one after the other. -/
def chain : List Pattern → Pattern
  | [] => nothing
  | [p] => p
  | p :: ps => seq p (chain ps)

/-- Any one of the parts. -/
def choice : List Pattern → Pattern
  | [] => never
  | [p] => p
  | p :: ps => alt p (choice ps)

/-- Exactly the given text. -/
def text (s : Text) : Pattern :=
  chain (s.map fun c => one (.single c))

/-- Any one of the given texts. -/
def oneOfTexts (words : List Text) : Pattern :=
  choice (words.map text)

/-- A text of `p` or nothing. -/
def optional (p : Pattern) : Pattern :=
  alt nothing p

/-- One or more texts of `p`. -/
def oneOrMore (p : Pattern) : Pattern :=
  seq p (many p)

/-- Any text. -/
def anything : Pattern :=
  many (one .any)

/-- Any text without a newline. -/
def restOfLine : Pattern :=
  many (one .inLine)

/-- Any number of blanks. -/
def blanks : Pattern :=
  many (one .blank)

/-- At least one blank. -/
def gap : Pattern :=
  oneOrMore (one .blank)

/-- The end of a line: nothing, or the one newline that ends it. -/
def endOfLine : Pattern :=
  optional (one (.single '\n'))

/-- A pattern after any indentation. -/
def indented (ps : List Pattern) : Pattern :=
  seq blanks (chain ps)

/-! ## What each form matches -/

@[simp] theorem not_matches_never (s : Text) : ¬ Matches never s := by
  intro h; cases h

@[simp] theorem matches_nothing {s : Text} : Matches nothing s ↔ s = [] :=
  ⟨fun h => by cases h; rfl, fun h => h ▸ .nothing⟩

@[simp] theorem matches_one {a : CharClass} {s : Text} :
    Matches (one a) s ↔ ∃ c, a.contains c = true ∧ s = [c] :=
  ⟨fun h => by cases h with | one h => exact ⟨_, h, rfl⟩, fun ⟨_, h, e⟩ => e ▸ .one h⟩

theorem matches_seq {p q : Pattern} {s : Text} :
    Matches (seq p q) s ↔ ∃ t u, Matches p t ∧ Matches q u ∧ s = t ++ u :=
  ⟨fun h => by cases h with | seq hp hq => exact ⟨_, _, hp, hq, rfl⟩,
   fun ⟨_, _, hp, hq, e⟩ => e ▸ .seq hp hq⟩

@[simp] theorem matches_alt {p q : Pattern} {s : Text} :
    Matches (alt p q) s ↔ Matches p s ∨ Matches q s :=
  ⟨fun h => by cases h with | left h => exact .inl h | right h => exact .inr h,
   fun h => h.elim .left .right⟩

@[simp] theorem matches_optional {p : Pattern} {s : Text} :
    Matches (optional p) s ↔ s = [] ∨ Matches p s := by
  simp [optional]

theorem matches_many_cons {p : Pattern} {c : Char} {s : Text} :
    Matches (many p) (c :: s) ↔
      ∃ t u, Matches p (c :: t) ∧ Matches (many p) u ∧ s = t ++ u := by
  constructor
  · generalize hr : many p = r
    generalize hx : c :: s = x
    intro h
    induction h with
    | @more q t u hp hm _ ih =>
      cases hr
      cases t with
      | nil => exact ih rfl (by simpa using hx)
      | cons d t =>
        obtain ⟨rfl, rfl⟩ : c = d ∧ s = t ++ u := by simpa using hx
        exact ⟨t, u, hp, hm, rfl⟩
    | _ => simp_all
  · rintro ⟨t, u, hp, hm, rfl⟩
    exact .more hp hm

/-- Repeating one class matches exactly the texts made of the class. -/
@[simp] theorem matches_many_one {a : CharClass} {s : Text} :
    Matches (many (one a)) s ↔ ∀ c ∈ s, a.contains c = true := by
  induction s with
  | nil => simp [Matches.done]
  | cons c s ih =>
    rw [matches_many_cons]
    constructor
    · rintro ⟨t, u, hp, hm, rfl⟩
      obtain ⟨d, hd, he⟩ := matches_one.1 hp
      obtain ⟨rfl, rfl⟩ : c = d ∧ t = [] := by simpa using he
      intro x hx
      rcases List.mem_cons.1 hx with rfl | hx
      · exact hd
      · exact ih.1 (by simpa using hm) x (by simpa using hx)
    · intro h
      refine ⟨[], s, matches_one.2 ⟨c, h c List.mem_cons_self, rfl⟩, ?_, rfl⟩
      exact ih.2 fun x hx => h x (List.mem_cons_of_mem _ hx)

@[simp] theorem matches_anything (s : Text) : Matches anything s := by
  simp [anything]

@[simp] theorem matches_blanks {s : Text} : Matches blanks s ↔ Text.allBlank s = true := by
  simp [blanks, Text.allBlank]

theorem matches_chain_cons {p : Pattern} {ps : List Pattern} {s : Text} :
    Matches (chain (p :: ps)) s ↔ ∃ t u, Matches p t ∧ Matches (chain ps) u ∧ s = t ++ u := by
  cases ps with
  | nil => simp [chain]
  | cons q ps => exact matches_seq

@[simp] theorem matches_chain_nil {s : Text} : Matches (chain []) s ↔ s = [] :=
  matches_nothing

theorem matches_choice {ps : List Pattern} {s : Text} :
    Matches (choice ps) s ↔ ∃ p ∈ ps, Matches p s := by
  induction ps with
  | nil => simp [choice]
  | cons p ps ih =>
    cases ps with
    | nil => simp [choice]
    | cons q ps => simp [choice, ih]

@[simp] theorem matches_text {w s : Text} : Matches (text w) s ↔ s = w := by
  induction w generalizing s with
  | nil => exact matches_nothing
  | cons c w ih =>
    rw [text, List.map_cons, matches_chain_cons]
    constructor
    · rintro ⟨t, u, ht, hu, rfl⟩
      obtain ⟨d, hd, rfl⟩ := matches_one.1 ht
      obtain rfl : u = w := ih.1 hu
      simpa using hd
    · rintro rfl
      exact ⟨[c], w, matches_one.2 ⟨c, by simp, rfl⟩, ih.2 rfl, rfl⟩

@[simp] theorem matches_oneOfTexts {words : List Text} {s : Text} :
    Matches (oneOfTexts words) s ↔ s ∈ words := by
  simp only [oneOfTexts, matches_choice, List.mem_map]
  constructor
  · rintro ⟨_, ⟨w, hw, rfl⟩, h⟩
    rwa [matches_text.1 h]
  · intro h
    exact ⟨text s, ⟨s, h, rfl⟩, matches_text.2 rfl⟩

@[simp] theorem matches_endOfLine {s : Text} : Matches endOfLine s ↔ s = [] ∨ s = ['\n'] := by
  simp [endOfLine]

end Pattern

end CodeKeyboard
