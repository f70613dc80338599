import CodeKeyboard.Expansion
import CodeKeyboard.Idiom.Scorer
import CodeKeyboard.Proofs.DecidingRule
import CodeKeyboard.Proofs.Indentation

/-!
# The headers that open a body (specification §E11)

Two parts of the keyboard look for headers. The terminator rule of a family suggests what opens a
block when the whole line is a header; a tap on the opener inserts the indented body too when the
line begins with the word of a header. The first says how a header goes on, the second only that the
word ends, so a header of the first kind is one of the second as soon as the words of the first are
among those of the second.

They are, but for one word: after `finally` the terminator rule of the languages with braces
suggests the brace, and a tap on it does not open the body.

- `Pattern.BeginsWith`: a text begins with a whole word. What a pattern demands after the word
  begins with no word character (`BeginsWith.of_chain`), a check on its form.
- `Pattern.braceHeadedBy_of_indented`: so a header that begins with one of the words is one that the
  tap knows, with blanks after it or without.
- `Pattern.firstWord_of_braceHeadedBy`: and what the tap knows begins with one of its words.
- `Expansion.opens_body_iff`: when a tap on the opener opens the body after a header.
-/

namespace CodeKeyboard

open Text Pattern Phrase Expansion

/-! ## Words at the beginning of a text -/

/-- The class has no word character, as far as its form tells. -/
def CharClass.isOffWord : CharClass → Bool
  | any => false
  | single c => !isWord c
  | range _ _ => false
  | blank => true
  | word => false
  | either a b => a.isOffWord && b.isOffWord
  | outside a => a == word

theorem CharClass.contains_of_isOffWord {a : CharClass} (h : a.isOffWord = true) {c : Char}
    (hc : isWord c = true) : a.contains c = false := by
  induction a with
  | any | range | word => cases h
  | single d =>
    rw [contains_single, beq_eq_false_iff_ne]
    rintro rfl
    simp [isOffWord, hc] at h
  | blank =>
    rw [contains_blank, Bool.eq_false_iff]
    intro hblank
    rw [isWord_of_isBlank hblank] at hc
    cases hc
  | either a b iha ihb =>
    rw [isOffWord, Bool.and_eq_true] at h
    rw [contains_either, iha h.1, ihb h.2, Bool.or_false]
  | outside a =>
    obtain rfl : a = word := by simpa [isOffWord] using h
    rw [contains_outside, contains_word, hc, Bool.not_true]

namespace Pattern

/-- The text goes on with no word: it is empty or begins with another character. -/
def OffWord (s : Text) : Prop :=
  ∀ c ∈ s.head?, isWord c = false

theorem offWord_nil : OffWord [] := by
  simp [OffWord]

theorem offWord_of_allBlank {s : Text} (h : allBlank s = true) : OffWord s := by
  intro c hc
  exact isWord_of_isBlank (List.all_eq_true.1 h c (List.mem_of_mem_head? hc))

theorem OffWord.append {s t : Text} (hs : OffWord s) (ht : OffWord t) : OffWord (s ++ t) := by
  cases s with
  | nil => exact ht
  | cons c s => exact hs

theorem offWord_of_startsIn {p : Pattern} (h : p.startsIn CharClass.isOffWord = true) {s : Text}
    (hmatch : Matches p s) : OffWord s := by
  cases s with
  | nil => exact offWord_nil
  | cons c s =>
    intro d hd
    obtain rfl : c = d := by simpa using hd
    obtain ⟨a, ha, hcontains⟩ := exists_class_of_startsIn h hmatch
    rw [Bool.eq_false_iff]
    intro hword
    rw [CharClass.contains_of_isOffWord ha hword] at hcontains
    cases hcontains

theorem matches_endOfWord {s : Text} : Matches endOfWord s ↔ OffWord s := by
  cases s with
  | nil => simp [endOfWord, offWord_nil]
  | cons c s =>
    simp only [endOfWord, matches_optional, reduceCtorEq, false_or, matches_seq, matches_one,
      matches_anything, true_and, CharClass.contains_outside, CharClass.contains_word,
      Bool.not_eq_true', OffWord, List.head?_cons, Option.mem_some_iff, forall_eq']
    constructor
    · rintro ⟨_, u, ⟨d, hd, rfl⟩, hs⟩
      obtain ⟨rfl, -⟩ : c = d ∧ s = u := by simpa using hs
      exact hd
    · intro hc
      exact ⟨[c], s, ⟨c, hc, rfl⟩, rfl⟩

/-- The text begins with a whole word of the pattern. -/
def BeginsWith (word : Pattern) (s : Text) : Prop :=
  ∃ t u, Matches word t ∧ OffWord u ∧ s = t ++ u

variable {word first : Pattern} {words : List Text} {ps rest : List Pattern} {s t w : Text}

theorem beginsWith_of_matches (h : Matches word s) : BeginsWith word s :=
  ⟨s, [], h, offWord_nil, (List.append_nil s).symm⟩

theorem BeginsWith.append (h : BeginsWith word s) (ht : OffWord t) : BeginsWith word (s ++ t) := by
  obtain ⟨u, v, hu, hv, rfl⟩ := h
  exact ⟨u, v ++ t, hu, hv.append ht, List.append_assoc u v t⟩

/-- A whole word at the beginning of the first part is one at the beginning of all of them, where
the other parts go on with no word character. -/
theorem BeginsWith.of_chain (hfirst : ∀ t, Matches first t → BeginsWith word t)
    (hrest : (chain rest).startsIn CharClass.isOffWord = true)
    (h : Matches (chain (first :: rest)) s) : BeginsWith word s := by
  obtain ⟨t, u, ht, hu, rfl⟩ := matches_chain_cons.1 h
  exact (hfirst t ht).append (offWord_of_startsIn hrest hu)

theorem matches_choice_of_words {words' : List Text} (hwords : words' ⊆ words)
    (heads : List Pattern) (h : Matches (oneOfTexts words') s) :
    Matches (choice (oneOfTexts words :: heads)) s := by
  rw [matches_oneOfTexts] at h
  exact matches_choice.2 ⟨_, List.mem_cons_self, matches_oneOfTexts.2 (hwords h)⟩

/-- The form of most headers: one of some words, and more. -/
theorem beginsWith_of_words {words' : List Text} (hwords : words' ⊆ words)
    (hrest : (chain rest).startsIn CharClass.isOffWord = true) (heads : List Pattern)
    (h : Matches (chain (oneOfTexts words' :: rest)) s) :
    BeginsWith (choice (oneOfTexts words :: heads)) s :=
  .of_chain (fun _ ht => beginsWith_of_matches (matches_choice_of_words hwords heads ht)) hrest h

/-- The form of a header with one word. -/
theorem beginsWith_of_word {name : Text} (hname : name ∈ words)
    (hrest : (chain rest).startsIn CharClass.isOffWord = true) (heads : List Pattern)
    (h : Matches (chain (text name :: rest)) s) :
    BeginsWith (choice (oneOfTexts words :: heads)) s := by
  have hwords : [name] ⊆ words := List.cons_subset.2 ⟨hname, List.nil_subset words⟩
  exact beginsWith_of_words hwords hrest heads h

/-! ## Headers -/

theorem matches_indented : Matches (indented ps) s ↔
    ∃ indent body, allBlank indent = true ∧ Matches (chain ps) body ∧ s = indent ++ body := by
  simp only [indented, matches_seq, matches_blanks]

theorem matches_headed {heads : List Pattern} : Matches (chain [choice heads, endOfWord]) s ↔
    BeginsWith (choice heads) s := by
  simp only [matches_chain_cons, matches_chain_nil, matches_endOfWord, BeginsWith]
  constructor
  · rintro ⟨t, _, ht, ⟨u, _, hu, rfl, rfl⟩, rfl⟩
    exact ⟨t, u, ht, hu, by rw [List.append_nil]⟩
  · rintro ⟨t, u, ht, hu, rfl⟩
    exact ⟨t, u, ht, ⟨u, [], hu, rfl, by rw [List.append_nil]⟩, rfl⟩

/-- **An indented header that begins with one of the words** is a line headed by them, with blanks
after it or without. -/
theorem headedBy_of_indented {heads : List Pattern}
    (hps : ∀ body, Matches (chain ps) body → BeginsWith (choice heads) body)
    (h : (indented ps).accepts s = true) (hw : allBlank w = true) :
    (headedBy heads).accepts (s ++ w) = true := by
  obtain ⟨indent, body, hindent, hbody, rfl⟩ := matches_indented.1 (accepts_iff.1 h)
  refine accepts_iff.2 (matches_indented.2 ⟨indent, body ++ w, hindent, ?_, by simp⟩)
  exact matches_headed.2 ((hps body hbody).append (offWord_of_allBlank hw))

/-- So is one with the closing brace that may stand before it. -/
theorem braceHeadedBy_of_closed {heads : List Pattern}
    (hps : ∀ body, Matches (chain ps) body → BeginsWith (choice heads) body)
    (h : (indented (closedBefore :: ps)).accepts s = true) (hw : allBlank w = true) :
    (braceHeadedBy heads).accepts (s ++ w) = true := by
  obtain ⟨indent, rest, hindent, hrest, rfl⟩ := matches_indented.1 (accepts_iff.1 h)
  obtain ⟨closed, body, hclosed, hbody, rfl⟩ := matches_chain_cons.1 hrest
  refine accepts_iff.2 (matches_indented.2 ⟨indent, closed ++ (body ++ w), hindent, ?_, by simp⟩)
  refine matches_chain_cons.2 ⟨closed, body ++ w, hclosed, ?_, rfl⟩
  exact matches_headed.2 ((hps body hbody).append (offWord_of_allBlank hw))

/-- The brace may be missing. -/
theorem braceHeadedBy_of_indented {heads : List Pattern}
    (hps : ∀ body, Matches (chain ps) body → BeginsWith (choice heads) body)
    (h : (indented ps).accepts s = true) (hw : allBlank w = true) :
    (braceHeadedBy heads).accepts (s ++ w) = true := by
  refine braceHeadedBy_of_closed hps ?_ hw
  obtain ⟨indent, body, hindent, hbody, rfl⟩ := matches_indented.1 (accepts_iff.1 h)
  refine accepts_iff.2 (matches_indented.2 ⟨indent, body, hindent, ?_, rfl⟩)
  exact matches_chain_cons.2 ⟨[], body, by simp [closedBefore], hbody, rfl⟩

/-! ## The first word of a line -/

/-- A line without its indentation and a closing brace before the rest. -/
def headPart (s : Text) : Text :=
  match trimStart s with
  | '\x7d' :: rest => trimStart rest
  | rest => rest

/-- The word that a line begins with, after a closing brace or not; empty when there is none. -/
def firstWord (s : Text) : Text :=
  (headPart s).takeWhile isWord

theorem takeWhile_isWord_append (hword : w.all isWord = true) (hs : OffWord s) :
    (w ++ s).takeWhile isWord = w := by
  rw [List.takeWhile_append_of_pos (List.all_eq_true.1 hword)]
  cases s with
  | nil => rw [List.takeWhile_nil, List.append_nil]
  | cons c s =>
    have hc : isWord c = false := hs c rfl
    rw [List.takeWhile_cons_of_neg (by simp [hc]), List.append_nil]

/-- The first word is what stands after the indentation and the closing brace. -/
theorem firstWord_append {indent closed : Text} (hindent : allBlank indent = true)
    (hclosed : Matches closedBefore closed) (hword : w.all isWord = true) (hne : w ≠ [])
    (hs : OffWord s) : firstWord (indent ++ (closed ++ (w ++ s))) = w := by
  obtain ⟨c, w, rfl⟩ := List.exists_cons_of_ne_nil hne
  have hc : isWord c = true := List.all_eq_true.1 hword c List.mem_cons_self
  have hvisible : isBlank c = false := by
    rw [Bool.eq_false_iff]
    intro hblank
    rw [isWord_of_isBlank hblank] at hc
    cases hc
  have hbrace : c ≠ '\x7d' := by
    rintro rfl
    exact absurd hc (by decide)
  have hkept : trimStart (c :: w ++ s) = c :: w ++ s :=
    List.dropWhile_cons_of_neg (by simp [hvisible])
  have hpart : headPart (indent ++ (closed ++ (c :: w ++ s))) = c :: w ++ s := by
    rw [headPart, trimStart_ignoresIndent.append hindent]
    simp only [closedBefore, matches_optional, matches_seq, matches_text, matches_blanks] at hclosed
    obtain rfl | ⟨_, blanks, rfl, hblanks, rfl⟩ := hclosed
    · rw [List.nil_append, hkept]
      split
      · next heq => exact absurd (List.cons.inj heq).1 hbrace
      · rfl
    · show trimStart (blanks ++ (c :: w ++ s)) = c :: w ++ s
      rw [trimStart_ignoresIndent.append hblanks, hkept]
  rw [firstWord, hpart, takeWhile_isWord_append hword hs]

/-- **A line headed by some words begins with one of them.** -/
theorem firstWord_of_braceHeadedBy
    (hwords : ∀ word ∈ words, word.all isWord = true ∧ word ≠ [])
    (h : (braceHeadedBy [oneOfTexts words]).accepts s = true) : firstWord s ∈ words := by
  obtain ⟨indent, rest, hindent, hrest, rfl⟩ := matches_indented.1 (accepts_iff.1 h)
  obtain ⟨closed, body, hclosed, hbody, rfl⟩ := matches_chain_cons.1 hrest
  obtain ⟨word, u, hword, hu, rfl⟩ := matches_headed.1 hbody
  have hmem : word ∈ words := matches_oneOfTexts.1 hword
  rw [firstWord_append hindent hclosed (hwords word hmem).1 (hwords word hmem).2 hu]
  exact hmem

end Pattern

/-! ## The headers of the families -/

variable {s w : Text}

/-- Every header that a colon completes is one that a tap on the colon knows. -/
theorem Indented.accepts_colonHeader (h : isHeader s = true) (hw : allBlank w = true) :
    colonHeader.accepts (s ++ w) = true := by
  simp only [isHeader, Bool.or_eq_true, Bool.and_eq_true] at h
  obtain (((hbare | hfunction) | hclass) | hhandler) | ⟨hcondition | hloop, -⟩ := h
  · exact headedBy_of_indented (fun _ => beginsWith_of_words (by decide) (by decide) []) hbare hw
  · exact headedBy_of_indented (fun _ => beginsWith_of_word (by decide) (by decide) []) hfunction hw
  · exact headedBy_of_indented (fun _ => beginsWith_of_word (by decide) (by decide) []) hclass hw
  · exact headedBy_of_indented (fun _ => beginsWith_of_word (by decide) (by decide) []) hhandler hw
  · exact headedBy_of_indented (fun _ => beginsWith_of_words (by decide) (by decide) [])
      hcondition hw
  · exact headedBy_of_indented (fun _ => beginsWith_of_word (by decide) (by decide) []) hloop hw

theorem GoIdiom.accepts_goHeader (h : isHeader s = true) (hw : allBlank w = true) :
    goHeader.accepts (s ++ w) = true := by
  simp only [isHeader, Bool.or_eq_true, Bool.and_eq_true] at h
  obtain (hotherwise | hfunction) | ⟨-, ⟨hloop, -⟩ | hcondition⟩ := h
  · exact braceHeadedBy_of_closed (fun _ => beginsWith_of_word (by decide) (by decide) [])
      hotherwise hw
  · exact braceHeadedBy_of_indented (fun _ => beginsWith_of_word (by decide) (by decide) [])
      hfunction hw
  · exact braceHeadedBy_of_indented (fun _ => beginsWith_of_word (by decide) (by decide) [])
      hloop hw
  · exact braceHeadedBy_of_indented (fun _ => beginsWith_of_words (by decide) (by decide) [])
      hcondition hw

/-- A function of Rust may be public: then both words are the head. -/
theorem RustIdiom.beginsWith_of_function {body : Text}
    (h : Matches (chain [optional (seq (text "pub") gap), text "fn", gap, oneOrMore (one .word),
      blanks, parenthesised,
      optional (chain [blanks, text "->", blanks, oneOrMore (one .visible)])]) body) :
    BeginsWith
      (choice [oneOfTexts ["if", "else", "while", "for", "loop", "match", "fn"],
        chain [text "pub", gap, text "fn"]]) body := by
  obtain ⟨visibility, rest, hvisibility, hrest, rfl⟩ := matches_chain_cons.1 h
  rw [matches_optional] at hvisibility
  obtain rfl | hpublic := hvisibility
  · exact beginsWith_of_word (by decide) (by decide) _ hrest
  · obtain ⟨word, more, hword, hmore, rfl⟩ := matches_chain_cons.1 hrest
    obtain ⟨pub, blanks, hpub, hblanks, rfl⟩ := matches_seq.1 hpublic
    refine ⟨pub ++ blanks ++ word, more, matches_choice.2 ⟨_, .tail _ (.head _), ?_⟩,
      offWord_of_startsIn (by decide) hmore, by simp⟩
    rw [List.append_assoc]
    exact .seq hpub (.seq hblanks hword)

theorem RustIdiom.accepts_rustHeader (h : isHeader s = true) (hw : allBlank w = true) :
    rustHeader.accepts (s ++ w) = true := by
  simp only [isHeader, Bool.or_eq_true, Bool.and_eq_true] at h
  obtain (hbare | hfunction) | ⟨-, hcondition | hloop⟩ := h
  · exact braceHeadedBy_of_closed (fun _ => beginsWith_of_words (by decide) (by decide) _) hbare hw
  · exact braceHeadedBy_of_indented (fun _ => beginsWith_of_function) hfunction hw
  · exact braceHeadedBy_of_indented (fun _ => beginsWith_of_words (by decide) (by decide) _)
      hcondition hw
  · exact braceHeadedBy_of_indented (fun _ => beginsWith_of_word (by decide) (by decide) _) hloop hw

namespace Braced

/-- The header that ends the handling of errors. -/
def finallyHeader : Pattern :=
  indented [closedBefore, text "finally"]

/-- The other headers of a single word. -/
def plainHeader : Pattern :=
  indented [closedBefore, oneOfTexts ["else", "try", "do"]]

/-- The headers of a single word, one of them apart. -/
theorem bareHeader_cases (h : bareHeader.accepts s = true) :
    plainHeader.accepts s = true ∨ finallyHeader.accepts s = true := by
  obtain ⟨indent, rest, hindent, hrest, rfl⟩ := matches_indented.1 (accepts_iff.1 h)
  obtain ⟨closed, word, hclosed, hword, rfl⟩ := matches_chain_cons.1 hrest
  have hmem : word ∈ (["else", "try", "do"] : List Text) ∨ word = "finally".toList := by
    have hwords := matches_oneOfTexts.1 hword
    simp only [List.mem_cons, List.not_mem_nil, or_false] at hwords ⊢
    tauto
  refine hmem.imp (fun hplain => ?_) fun hfinally => ?_
  · exact accepts_iff.2 (matches_indented.2 ⟨indent, _, hindent,
      matches_chain_cons.2 ⟨closed, word, hclosed, matches_oneOfTexts.2 hplain, rfl⟩, rfl⟩)
  · exact accepts_iff.2 (matches_indented.2 ⟨indent, _, hindent,
      matches_chain_cons.2 ⟨closed, word, hclosed, matches_text.2 hfinally, rfl⟩, rfl⟩)

/-- The head of a header with parentheses may be two words, and the first is enough. -/
theorem beginsWith_of_header {body : Text}
    (h : Matches (chain
      [alt (oneOfTexts ["if", "while", "for", "switch", "foreach", "catch"])
        (chain [text "else", gap, text "if"]), blanks, parenthesised]) body) :
    BeginsWith
      (choice [oneOfTexts
        ["if", "else", "while", "for", "foreach", "switch", "catch", "try", "do", "function"]])
      body := by
  refine .of_chain (fun t ht => ?_) (by decide) h
  obtain hword | helse := matches_alt.1 ht
  · exact beginsWith_of_matches (matches_choice_of_words (by decide) [] hword)
  · exact beginsWith_of_word (by decide) (by decide) [] helse

theorem accepts_braceHeader (h : header.accepts s = true ∨ plainHeader.accepts s = true)
    (hw : allBlank w = true) : braceHeader.accepts (s ++ w) = true := by
  obtain hheader | hplain := h
  · exact braceHeadedBy_of_closed (fun _ => beginsWith_of_header) hheader hw
  · exact braceHeadedBy_of_closed (fun _ => beginsWith_of_words (by decide) (by decide) []) hplain
      hw

/-- After the last of them a tap on the brace finds no header. -/
theorem not_accepts_braceHeader (h : finallyHeader.accepts s = true) (hw : allBlank w = true) :
    braceHeader.accepts (s ++ w) = false := by
  obtain ⟨indent, rest, hindent, hrest, rfl⟩ := matches_indented.1 (accepts_iff.1 h)
  obtain ⟨closed, word, hclosed, hword, rfl⟩ := matches_chain_cons.1 hrest
  obtain rfl : word = "finally".toList := matches_text.1 hword
  rw [Bool.eq_false_iff]
  intro haccepts
  have hfirst := firstWord_of_braceHeadedBy (by decide) haccepts
  rw [List.append_assoc, List.append_assoc,
    firstWord_append hindent hclosed (by decide) (by decide) (offWord_of_allBlank hw)] at hfirst
  exact absurd hfirst (by decide)

end Braced

namespace Family

/-- What opens a block in the languages of a family. -/
def opener : Family → Text
  | .indented => ":"
  | _ => "\x7b"

/-- The lines after which a tap on the opener opens the body too. -/
def blockHeader : Family → Pattern
  | .plain => never
  | .indented => colonHeader
  | .braced => braceHeader
  | .go => goHeader
  | .rust => rustHeader

/-- Whether a line without blanks at its end is a control-flow header for the terminator rule: with
braces one that has parentheses or is a single word, elsewhere any header. -/
def isControlHeader : Family → Text → Bool
  | .plain, _ => false
  | .indented, s => Indented.isHeader s
  | .braced, s => Braced.header.accepts s || Braced.bareHeader.accepts s
  | .go, s => GoIdiom.isHeader s
  | .rust, s => RustIdiom.isHeader s

/-- Whether it is the one that a tap does not know. -/
def isUnknownHeader : Family → Text → Bool
  | .braced, s => Braced.finallyHeader.accepts s
  | _, _ => false

/-- **What the terminator rule takes for a header a tap does too, but for one.** -/
theorem accepts_blockHeader {family : Family} (h : family.isControlHeader s = true)
    (hw : allBlank w = true) :
    family.blockHeader.accepts (s ++ w) = !family.isUnknownHeader s := by
  cases family with
  | plain => cases h
  | indented => exact Indented.accepts_colonHeader h hw
  | go => exact GoIdiom.accepts_goHeader h hw
  | rust => exact RustIdiom.accepts_rustHeader h hw
  | braced =>
    show braceHeader.accepts (s ++ w) = !Braced.finallyHeader.accepts s
    by_cases hfinally : Braced.finallyHeader.accepts s = true
    · rw [Braced.not_accepts_braceHeader hfinally hw, hfinally]
      rfl
    · rw [Bool.eq_false_iff.2 hfinally]
      refine Braced.accepts_braceHeader ?_ hw
      obtain hheader | hbare := Bool.or_eq_true_iff.1 h
      · exact .inl hheader
      · exact .inr ((Braced.bareHeader_cases hbare).resolve_right hfinally)

end Family

/-! ## The opener is not there yet -/

theorem isSuffixOf_singleton_eq_false {c : Char} (h : s.getLast? ≠ some c) :
    [c].isSuffixOf s = false := by
  rw [Bool.eq_false_iff]
  intro hsuffix
  obtain ⟨front, rfl⟩ := List.isSuffixOf_iff_suffix.1 hsuffix
  simp at h

theorem getLast?_ne_of_endsInOneOf {chars : Text} {c : Char} (hc : c ∈ chars)
    (h : endsInOneOf chars s = false) : s.getLast? ≠ some c := by
  intro hlast
  rw [endsInOneOf, hlast, Option.any_some, decide_eq_false_iff_not] at h
  exact h hc

/-- A header of a language with braces ends in a parenthesis or a letter. -/
theorem Braced.getLast?_ne_of_header
    (h : header.accepts s = true ∨ bareHeader.accepts s = true) : s.getLast? ≠ some '\x7b' := by
  obtain hheader | hbare := h
  · simp only [accepts_iff, header, parenthesised, matches_indented, matches_chain_cons,
      matches_chain_nil, matches_text] at hheader
    obtain ⟨indent, _, -, ⟨closed, _, -, ⟨word, _, -, ⟨blanks, _, -, ⟨_, _, ⟨_, _, rfl,
      ⟨middle, _, -, ⟨_, _, rfl, rfl, rfl⟩, rfl⟩, rfl⟩, rfl, rfl⟩, rfl⟩, rfl⟩, rfl⟩, rfl⟩ := hheader
    simp [List.getLast?_cons]
  · simp only [accepts_iff, bareHeader, matches_indented, matches_chain_cons, matches_chain_nil,
      matches_oneOfTexts] at hbare
    obtain ⟨indent, _, -, ⟨closed, _, -, ⟨word, _, hword, rfl, rfl⟩, rfl⟩, rfl⟩ := hbare
    simp only [List.mem_cons, List.not_mem_nil, or_false] at hword
    obtain rfl | rfl | rfl | rfl := hword <;> simp

/-- A terminator rule has nothing to suggest where the line ends in one of some characters. -/
theorem endsInOneOf_of_mem {chars : Text} {empty opened : Bool} {hits : Suggestions}
    {hit : Text × Score} (h : hit ∈ if empty || endsInOneOf chars s || opened then [] else hits) :
    endsInOneOf chars s = false := by
  split at h
  · cases h
  · next hguard =>
    simp only [Bool.or_eq_true, not_or, Bool.not_eq_true] at hguard
    exact hguard.1.2

/-- Where the terminator rule suggests the opener after a header the line does not end in it. -/
theorem Dialect.isSuffixOf_opener {dialect : Dialect} {reserved : Text → Bool} {line : Text}
    {confidence : Score}
    (hnamed : (dialect.family.opener, confidence) ∈ dialect.rule reserved .terminator line)
    (hheader : dialect.family.isControlHeader (trimEnd line) = true) :
    dialect.family.opener.isSuffixOf (trimEnd line) = false := by
  obtain ⟨rule, hform, hnamed⟩ := exists_ruleForm_of_mem hnamed
  cases hform with
  | plain => cases hnamed
  | bracedTerminator hfamily =>
    -- this rule looks for the opener only after it has looked for headers
    rw [hfamily] at hheader ⊢
    exact isSuffixOf_singleton_eq_false
      (Braced.getLast?_ne_of_header (Bool.or_eq_true_iff.1 hheader))
  | indentedTerminator hfamily =>
    rw [hfamily] at hnamed ⊢
    exact isSuffixOf_singleton_eq_false
      (getLast?_ne_of_endsInOneOf (.head _) (endsInOneOf_of_mem hnamed))
  | goTerminator hfamily =>
    rw [hfamily] at hnamed ⊢
    exact isSuffixOf_singleton_eq_false
      (getLast?_ne_of_endsInOneOf (.head _) (endsInOneOf_of_mem hnamed))
  | rustTerminator hfamily =>
    rw [hfamily] at hnamed ⊢
    exact isSuffixOf_singleton_eq_false
      (getLast?_ne_of_endsInOneOf (.head _) (endsInOneOf_of_mem hnamed))

namespace Expansion

/-! ## The tap -/

variable {language : Language} {dialect : Dialect} {button : Button} {context : Context}

/-- A language has one rule for blocks; its other rules are for the words of loops. -/
theorem languageRules_of_mem_builtIn (hbuiltIn : (language, dialect) ∈ Cascade.builtIn) :
    ∃ before after,
      languageRules.lookup language.key =
        some (before ++ blockOpener dialect.family.opener dialect.family.blockHeader :: after) ∧
      ∀ rule ∈ before ++ after, ∃ label ∈ (["in", "as"] : List Text), ∃ loop,
        rule = membership label loop := by
  simp only [Cascade.builtIn, List.mem_cons, List.not_mem_nil, or_false, Prod.mk.injEq] at hbuiltIn
  obtain ⟨rfl, rfl⟩ | ⟨rfl, rfl⟩ | ⟨rfl, rfl⟩ | ⟨rfl, rfl⟩ | ⟨rfl, rfl⟩ | ⟨rfl, rfl⟩ | ⟨rfl, rfl⟩ |
    ⟨rfl, rfl⟩ | ⟨rfl, rfl⟩ | ⟨rfl, rfl⟩ := hbuiltIn
  · exact ⟨[membership "in" bareLoop], [], rfl, by simp⟩
  · exact ⟨[], [], rfl, by simp⟩
  · exact ⟨[], [], rfl, by simp⟩
  · exact ⟨[], [], rfl, by simp⟩
  · exact ⟨[], [], rfl, by simp⟩
  · exact ⟨[], [], rfl, by simp⟩
  · exact ⟨[], [], rfl, by simp⟩
  · exact ⟨[membership "in" bareLoop], [], rfl, by simp⟩
  · exact ⟨[], [membership "in" typedLoop], rfl, by simp⟩
  · exact ⟨[], [membership "as" sigilLoop], rfl, by simp⟩

/-- **Of the rules of a language only the one for blocks is for the opener.** -/
theorem findSome?_languageRules (hbuiltIn : (language, dialect) ∈ Cascade.builtIn)
    (hlabel : button.label = dialect.family.opener) (context : Context) :
    ((languageRules.lookup language.key).getD []).findSome? (fun rule => rule button context) =
      blockOpener dialect.family.opener dialect.family.blockHeader button context := by
  obtain ⟨before, after, hrules, hothers⟩ := languageRules_of_mem_builtIn hbuiltIn
  have hsilent : ∀ rule ∈ before ++ after, rule button context = none := by
    intro rule hrule
    obtain ⟨label, hword, loop, rfl⟩ := hothers rule hrule
    refine membership_of_label_ne (fun hsame => ?_) loop context
    rw [← hsame, hlabel] at hword
    revert hword
    cases dialect.family <;> decide
  have hbefore : before.findSome? (fun rule => rule button context) = none :=
    List.findSome?_eq_none_iff.2 fun rule hrule => hsilent rule (List.mem_append_left _ hrule)
  have hafter : after.findSome? (fun rule => rule button context) = none :=
    List.findSome?_eq_none_iff.2 fun rule hrule => hsilent rule (List.mem_append_right _ hrule)
  rw [hrules, Option.getD_some, List.findSome?_append, hbefore, Option.none_or,
    List.findSome?_cons, hafter]
  cases blockOpener dialect.family.opener dialect.family.blockHeader button context <;> rfl

/-- A tap on the opener opens the body: after the text of the button come a new line and the next
indentation. -/
def OpensBody (language : Language) (button : Button) (context : Context) : Prop :=
  insertion language button context =
    ⟨openerLead button.label context.line ++ button.text ++ ['\n'], nextIndent context⟩

/-- What is inserted then, as long as there is room for the indentation. -/
theorem OpensBody.expand_eq (h : OpensBody language button context)
    (hindent : 0 ≤ context.indentWidth) (hwidth : nextIndent context ≤ Insertion.widest) :
    expand language button context =
      .ok (openerLead button.label context.line ++ button.text ++
        '\n' :: List.replicate (nextIndent context).toNat ' ') := by
  rw [OpensBody] at h
  have hspaces : (insertion language button context).spaces = nextIndent context := by rw [h]
  have hwrite := Insertion.write_of_le
    (by rw [hspaces, nextIndent, indentStep]; omega) (hspaces.trans_le hwidth)
  rw [expand, hwrite, h]
  simp [Insertion.chars]

/-- Whether it does is up to the rule for blocks alone. -/
theorem opensBody_iff_blockOpener (hbuiltIn : (language, dialect) ∈ Cascade.builtIn)
    (hlabel : button.label = dialect.family.opener) (hindent : 0 ≤ context.indentWidth) :
    OpensBody language button context ↔
      (blockOpener dialect.family.opener dialect.family.blockHeader button context).isSome := by
  rw [OpensBody, insertion, rules, List.findSome?_append, findSome?_languageRules hbuiltIn hlabel]
  cases hopens : blockOpener dialect.family.opener dialect.family.blockHeader button context with
  | some opened =>
    simp [eq_of_blockOpener hopens, hlabel]
  | none =>
    rw [Option.none_or, Option.isSome_none]
    refine iff_of_false (fun hsame => ?_) Bool.false_ne_true
    have hspaces := congrArg Insertion.spaces hsame
    have hwidth : (0 : Int) < nextIndent context := by
      rw [nextIndent, indentStep]
      omega
    cases hcommon : (commonRules language).findSome? (fun rule => rule button context) with
    | none =>
      rw [hcommon] at hspaces
      exact absurd hspaces hwidth.ne
    | some inserted =>
      obtain ⟨rule, hrule, happlies⟩ := List.exists_of_findSome?_eq_some hcommon
      rw [hcommon, Option.getD_some, spaces_of_commonRules hrule happlies] at hspaces
      exact absurd hspaces hwidth.ne

/-- **When a tap on the opener opens the body.** After a header for which the terminator rule of a
built-in language suggests the opener, on a line that leaves no bracket open, it does, whatever the
indentation and the blanks at the end of the line, unless the header is `finally` in a language with
braces. -/
theorem opens_body_iff (hbuiltIn : (language, dialect) ∈ Cascade.builtIn)
    (hlabel : button.label = dialect.family.opener) (text : Text) (cursor : Int)
    (hclosed : Bracket.unclosed (Context.extract text cursor).line = []) {confidence : Score}
    (hnamed : (dialect.family.opener, confidence) ∈
      dialect.rule language.isReserved .terminator (Context.extract text cursor).line)
    (hheader : dialect.family.isControlHeader (trimEnd (Context.extract text cursor).line) = true) :
    (OpensBody language button (Context.extract text cursor) ↔
        dialect.family.isUnknownHeader (trimEnd (Context.extract text cursor).line) = false) ∧
      (dialect.family.isUnknownHeader (trimEnd (Context.extract text cursor).line) = false →
        nextIndent (Context.extract text cursor) ≤ Insertion.widest →
        expand language button (Context.extract text cursor) =
          .ok (openerLead button.label (Context.extract text cursor).line ++ button.text ++
            '\n' :: List.replicate (nextIndent (Context.extract text cursor)).toNat ' ')) := by
  have hindent : 0 ≤ (Context.extract text cursor).indentWidth := Int.natCast_nonneg _
  have hopens : OpensBody language button (Context.extract text cursor) ↔
      dialect.family.isUnknownHeader (trimEnd (Context.extract text cursor).line) = false := by
    rw [opensBody_iff_blockOpener hbuiltIn hlabel hindent]
    obtain ⟨w, hw, hline⟩ := exists_trimEnd_append (Context.extract text cursor).line
    have haccepts := Family.accepts_blockHeader hheader hw
    rw [← hline] at haccepts
    have hinnermost : Bracket.innermost? (Context.extract text cursor).line = none := by
      rw [Bracket.innermost?, hclosed]
      rfl
    have hmissing := Dialect.isSuffixOf_opener hnamed hheader
    simp [blockOpener, hlabel, haccepts, hinnermost, hmissing]
  exact ⟨hopens, fun hknown hwidth => (hopens.2 hknown).expand_eq hindent hwidth⟩

/-- After a closing brace, two spaces deep, with a blank at the end of the line already. -/
theorem opens_body_iff_else_if :
    Bracket.unclosed (Context.atEnd "  \x7d else if (x) ").line = [] ∧
      ("\x7b".toList, 1) ∈ Dialect.javaScript.rule Language.javaScript.isReserved .terminator
        (Context.atEnd "  \x7d else if (x) ").line ∧
      Family.braced.isControlHeader (trimEnd (Context.atEnd "  \x7d else if (x) ").line) = true ∧
      expand .javaScript ⟨"sym_5", "\x7b", "\x7b"⟩ (Context.atEnd "  \x7d else if (x) ") =
        .ok "\x7b\n      " := by
  have hbuiltIn : (Language.javaScript, Dialect.javaScript) ∈ Cascade.builtIn := .tail _ (.head _)
  have hclosed : Bracket.unclosed (Context.atEnd "  \x7d else if (x) ").line = [] := by
    decide +kernel
  have hnamed : ("\x7b".toList, 1) ∈
      Dialect.javaScript.rule Language.javaScript.isReserved .terminator
        (Context.atEnd "  \x7d else if (x) ").line := by decide +kernel
  have hheader : Family.braced.isControlHeader
      (trimEnd (Context.atEnd "  \x7d else if (x) ").line) = true := by decide +kernel
  have hknown : Family.braced.isUnknownHeader
      (trimEnd (Context.atEnd "  \x7d else if (x) ").line) = false := by decide +kernel
  have hwidth : nextIndent (Context.atEnd "  \x7d else if (x) ") ≤ Insertion.widest := by
    decide +kernel
  have hbody := (opens_body_iff hbuiltIn
    (show (⟨"sym_5", "\x7b", "\x7b"⟩ : Button).label = Dialect.javaScript.family.opener from rfl)
    _ _ hclosed hnamed hheader).2 hknown hwidth
  refine ⟨hclosed, hnamed, hheader, hbody.trans ?_⟩
  decide +kernel

/-- After `finally` the brace is suggested, and a tap on it inserts the brace alone. -/
theorem finally_opens_no_body :
    Bracket.unclosed "finally" = [] ∧
      ("\x7b".toList, 1) ∈
        Dialect.javaScript.rule Language.javaScript.isReserved .terminator "finally" ∧
      Braced.bareHeader.accepts (trimEnd "finally") = true ∧
      ¬ ∃ before, expand .javaScript ⟨"sym_5", "\x7b", "\x7b"⟩ (Context.atEnd "finally") =
        .ok (before ++ "\n    ".toList) := by
  refine ⟨by decide +kernel, by decide +kernel, by decide +kernel, ?_⟩
  rintro ⟨before, hexpand⟩
  have halone : expand .javaScript ⟨"sym_5", "\x7b", "\x7b"⟩ (Context.atEnd "finally") =
      .ok "\x7b" := by decide +kernel
  have hlength := congrArg List.length (Except.ok.inj (hexpand.symm.trans halone))
  simp at hlength

end Expansion

end CodeKeyboard
