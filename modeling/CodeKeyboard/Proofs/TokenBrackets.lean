import CodeKeyboard.Catalog
import CodeKeyboard.Proofs.BracketMatching
import CodeKeyboard.Proofs.TokenLossless

/-!
# The tokens and the open brackets agree on what is quoted

Two scans read a line for its quotes: one classifies its characters, the other matches its brackets.
They keep different things, a mode with what ends it and one quote, but where the quotes of the line
are the delimiters of the language and no comment begins, one is the image of the other:
`ScanState.ofQuote` turns the quote that is open into the state of the scan, and each character
takes both on together. Only a comment could part them, and a comment that begins leaves a token.

- `ScanState.next?_ofQuote`: one character takes both scans on together, or begins a comment.
- `Token.scan_ofQuote_cons`: what one character adds to the tokens, told by the quotes alone.
- `Token.kinds_scan`: so strings are what stands in quotes and the quotes themselves.
- `Token.openFrom_eq_matchPlaced`: and the brackets that are tokens of their own are those that
  count.
- `Token.unclosed_eq_of_tokens`: both, for a line of a built-in language.
-/

namespace CodeKeyboard

namespace Bracket

/-- Whether a character opens or closes a bracket. -/
def isBracket (c : Char) : Bool :=
  (opened? c).isSome || (closed? c).isSome

/-- Matching brackets that are given with their places, none of which is quoted. -/
def matchPlaced (stack : List (Nat × Bracket)) (placed : List (Nat × Char)) :
    List (Nat × Bracket) :=
  placed.foldl (fun stack entry => stackAfter none entry.1 entry.2 stack) stack

theorem isBracket_iff {c : Char} :
    isBracket c = true ↔ ∃ b : Bracket, c = b.opener ∨ c = b.closer := by
  simp only [isBracket, Bool.or_eq_true, Option.isSome_iff_exists, opened?_eq_some_iff,
    closed?_eq_some_iff, exists_or]

theorem stackAfter_of_not_isBracket {c : Char} (h : isBracket c = false) (offset : Nat)
    (stack : List (Nat × Bracket)) : stackAfter none offset c stack = stack := by
  rw [isBracket, Bool.or_eq_false_iff, Option.isSome_eq_false_iff, Option.isSome_eq_false_iff,
    Option.isNone_iff_eq_none, Option.isNone_iff_eq_none] at h
  simp only [stackAfter, h.1, h.2]

theorem isBracket_of_isQuote {c : Char} (h : isQuote c = true) : isBracket c = false := by
  rw [Bool.eq_false_iff]
  intro hbracket
  obtain ⟨b, rfl | rfl⟩ := isBracket_iff.1 hbracket
  · exact absurd h (by cases b <;> decide)
  · exact absurd h (by cases b <;> decide)

/-- A quote that does not end stays the same. -/
theorem eq_of_nextQuote {q q' : Char} {previous : Option Char} {c : Char}
    (h : nextQuote (some q) previous c = some q') : q' = q := by
  rw [nextQuote] at h
  split at h
  · cases h
  · exact (Option.some.inj h).symm

theorem isSome_nextQuote_none (previous : Option Char) (c : Char) :
    (nextQuote none previous c).isSome = isQuote c := by
  rw [nextQuote]
  split
  · next h => exact h.symm
  · next h => exact (Bool.eq_false_iff.2 h).symm

/-- For each character of a text, whether it stands in a quote or begins one. -/
def quotedFrom (quote previous : Option Char) : Text → List Bool
  | [] => []
  | c :: s => (quote.isSome || isQuote c) :: quotedFrom (nextQuote quote previous c) (some c) s

theorem getElem?_quotedFrom (quote previous : Option Char) (s : Text) (i : Nat) :
    (quotedFrom quote previous s)[i]? =
      s[i]?.map fun c => (quoteFrom quote previous (s.take i)).isSome || isQuote c := by
  induction s generalizing quote previous i with
  | nil => rfl
  | cons c s ih =>
    cases i with
    | zero => rfl
    | succ i => exact ih (nextQuote quote previous c) (some c) i

end Bracket

open CodeKeyboard.Bracket

/-- The strings of a lexicon are quotes: only quote characters delimit them, and the marker of its
block comments is not empty. -/
structure Lexicon.Quoting (lexicon : Lexicon) : Prop where
  delimits : ∀ c, [c] ∈ lexicon.delimiters → isQuote c = true
  begins : ∀ block, lexicon.blockComment = some block → block.opening ≠ []

/-- The built-in languages quote their strings. -/
theorem Lexicon.quoting_of_mem_builtIn {language : Language}
    (h : language ∈ Language.builtIn) : language.lexicon.Quoting := by
  have hall : ∀ language ∈ Language.builtIn,
      (∀ delimiter ∈ language.lexicon.delimiters, delimiter.all isQuote = true) ∧
        ∀ block ∈ language.lexicon.blockComment, block.opening ≠ [] := by
    decide +kernel
  obtain ⟨hdelimits, hbegins⟩ := hall language h
  exact ⟨fun c hc => List.all_eq_true.1 (hdelimits [c] hc) c List.mem_cons_self, hbegins⟩

namespace ScanState

variable {lexicon : Lexicon}

/-- The state of the scan for the quote that is open: in the string that it ends, or in code. -/
def ofQuote : Option Char → ScanState
  | none => start
  | some q => ⟨.string, some [q]⟩

/-- **One character takes both scans on together**, unless a comment begins with it. -/
theorem next?_ofQuote (hlexicon : lexicon.Quoting) (quote previous : Option Char) (c : Char)
    (rest : Text) (hc : isQuote c = true → [c] ∈ lexicon.delimiters) :
    (quote = none ∧ ∃ closer width,
        (ofQuote quote).next? lexicon (c :: rest) (some c) previous =
          some (⟨.comment, closer⟩, width + 1)) ∨
      (ofQuote quote).next? lexicon (c :: rest) (some c) previous =
        some (ofQuote (nextQuote quote previous c),
          if nextQuote quote previous c = quote then 0 else 1) := by
  cases quote with
  | some q =>
    refine .inr ?_
    simp only [next?, ofQuote, nextQuote, Option.map_some, Option.some.injEq, List.cons.injEq,
      and_true, escape, eq_comm (a := q)]
    split
    · rfl
    · rw [if_pos rfl]
  | none =>
    rw [next?]
    dsimp only [ofQuote, start]
    split
    · next hline =>
      -- a line comment, whose marker is not empty
      rw [Bool.and_eq_true, Bool.not_eq_true', List.isEmpty_eq_false_iff] at hline
      obtain ⟨d, marker, hmarker⟩ := List.exists_cons_of_ne_nil hline.1
      exact .inl ⟨rfl, none, marker.length, by rw [hmarker, List.length_cons]⟩
    · split
      · next block hblock =>
        -- a block comment, whose marker is not empty either
        obtain ⟨d, marker, hmarker⟩ := List.exists_cons_of_ne_nil
          (hlexicon.begins block (Option.filter_eq_some_iff.1 hblock).1)
        exact .inl ⟨rfl, some block.closing, marker.length, by rw [hmarker, List.length_cons]⟩
      · refine .inr ?_
        rw [Option.map_some, nextQuote]
        by_cases hquote : isQuote c = true
        · rw [if_pos (hc hquote), if_pos hquote]
          rfl
        · rw [if_neg (fun hmem => hquote (hlexicon.delimits c hmem)), if_neg hquote]
          rfl

end ScanState

namespace Token

variable {lexicon : Lexicon}

/-! ## A comment leaves a token -/

/-- What was collected in a comment ends in a token of a comment. -/
theorem exists_comment_of_scan {closer : Option Text} {previous : Option Char}
    {pending rest : Text} (hpending : pending ≠ []) :
    ∃ token ∈ scan lexicon ⟨.comment, closer⟩ previous pending rest, token.kind = .comment := by
  generalize hstate : (⟨.comment, closer⟩ : ScanState) = state
  fun_induction scan lexicon state previous pending rest with
  | case1 state previous pending =>
    subst hstate
    exact ⟨⟨pending, .comment⟩, by simp [collected, kindIn, hpending], rfl⟩
  | case2 state previous pending c rest next width hnext taken left hmode ih =>
    subst hstate
    cases hmode
  | case3 state previous pending c rest next width hnext taken left hmode ih =>
    subst hstate
    exact ⟨_, List.mem_cons_self, rfl⟩
  | case4 state previous pending c rest hboundary hstay ih =>
    subst hstate
    simp at hboundary
  | case5 state previous pending c rest hword hstay ih =>
    exact ih (List.append_ne_nil_of_right_ne_nil _ (List.cons_ne_nil _ _)) hstate

/-! ## The tokens, told by the quotes -/

/-- What one character adds where no comment begins, given the quote that is open before it and the
one after: the tokens it ends, and what is collected from then on. -/
def advance (lexicon : Lexicon) (quote next : Option Char) (c : Char) (pending : Text) :
    List Token × Text :=
  match quote, next with
  | none, some _ => (collected .plain pending, [c])
  | some _, none => ([⟨pending ++ [c], .string⟩], [])
  | some _, some _ => ([], pending ++ [c])
  | none, none =>
    if isBoundary c then (collected (wordKind lexicon pending) pending ++ [⟨[c], .plain⟩], [])
    else ([], pending ++ [c])

/-- **What one character adds to the tokens** where no comment begins is told by the quotes. -/
theorem scan_ofQuote_cons (hlexicon : lexicon.Quoting) {quote previous : Option Char}
    {pending rest : Text} {c : Char} (hc : isQuote c = true → [c] ∈ lexicon.delimiters)
    (hcomment : ∀ token ∈ scan lexicon (.ofQuote quote) previous pending (c :: rest),
      token.kind ≠ .comment) :
    scan lexicon (.ofQuote quote) previous pending (c :: rest) =
      (advance lexicon quote (nextQuote quote previous c) c pending).1 ++
        scan lexicon (.ofQuote (nextQuote quote previous c)) (some c)
          (advance lexicon quote (nextQuote quote previous c) c pending).2 rest := by
  obtain ⟨rfl, closer, width, hnext⟩ | hnext :=
    ScanState.next?_ofQuote hlexicon quote previous c rest hc
  · rw [scan, hnext] at hcomment
    obtain ⟨token, htoken, hkind⟩ := @exists_comment_of_scan lexicon closer
      (c :: rest.take width).getLast? (c :: rest.take width) (rest.drop width)
      (List.cons_ne_nil _ _)
    exact absurd hkind (hcomment token (List.mem_append_right _ htoken))
  · rw [scan, hnext]
    cases quote with
    | none =>
      cases nextQuote none previous c with
      | some q => rfl
      | none =>
        by_cases hboundary : isBoundary c = true <;>
          simp [ScanState.ofQuote, ScanState.start, advance, hboundary]
    | some q =>
      cases hquote : nextQuote (some q) previous c with
      | none => rfl
      | some q' =>
        rw [eq_of_nextQuote hquote]
        simp [ScanState.ofQuote, advance]

/-- What is added and what is collected from then on is what was collected, and the character. -/
theorem join_advance (lexicon : Lexicon) (quote next : Option Char) (c : Char) (pending : Text) :
    join (advance lexicon quote next c pending).1 ++ (advance lexicon quote next c pending).2 =
      pending ++ [c] := by
  unfold advance
  split
  · rw [join_collected]
  · simp
  · rfl
  · split
    · simp
    · rfl

/-! ## Strings -/

/-- The class of every character of the joined text. -/
def kinds (tokens : List Token) : List TokenKind :=
  tokens.flatMap fun token => List.replicate token.text.length token.kind

@[simp] theorem kinds_nil : kinds [] = [] := rfl

@[simp] theorem kinds_cons (token : Token) (tokens : List Token) :
    kinds (token :: tokens) = List.replicate token.text.length token.kind ++ kinds tokens := rfl

@[simp] theorem kinds_append (tokens more : List Token) :
    kinds (tokens ++ more) = kinds tokens ++ kinds more :=
  List.flatMap_append

@[simp] theorem kinds_collected (kind : TokenKind) (pending : Text) :
    kinds (collected kind pending) = List.replicate pending.length kind := by
  cases pending <;> simp [collected]

/-- For each character of the joined text, whether it belongs to a string. -/
def inStrings (tokens : List Token) : List Bool :=
  (kinds tokens).map (decide <| · = .string)

@[simp] theorem inStrings_append (tokens more : List Token) :
    inStrings (tokens ++ more) = inStrings tokens ++ inStrings more := by
  simp [inStrings]

/-- A word is no string. -/
theorem wordKind_ne_string (lexicon : Lexicon) (word : Text) : wordKind lexicon word ≠ .string := by
  unfold wordKind
  split
  · exact TokenKind.noConfusion
  split
  · exact TokenKind.noConfusion
  split
  · exact TokenKind.noConfusion
  · exact TokenKind.noConfusion

/-- The character that is added belongs to a string just if a quote is open or it is one, and what
is collected will be a string just if a quote is open. -/
theorem inStrings_advance (lexicon : Lexicon) (quote previous : Option Char) (c : Char)
    (pending : Text) :
    inStrings (advance lexicon quote (nextQuote quote previous c) c pending).1 ++
        List.replicate (advance lexicon quote (nextQuote quote previous c) c pending).2.length
          (nextQuote quote previous c).isSome =
      List.replicate pending.length quote.isSome ++ [quote.isSome || isQuote c] := by
  cases quote with
  | some q =>
    cases nextQuote (some q) previous c <;>
      simp [advance, inStrings, List.replicate_add]
  | none =>
    have hquote := isSome_nextQuote_none previous c
    cases hnext : nextQuote none previous c with
    | some q =>
      rw [hnext] at hquote
      simp [advance, inStrings, ← hquote]
    | none =>
      rw [hnext] at hquote
      simp only [advance]
      split
      · simp [inStrings, wordKind_ne_string, ← hquote]
      · simp [inStrings, ← hquote, List.replicate_add]

/-- **Strings are what stands in quotes, and the quotes.** What is collected so far is a string just
if a quote is open. -/
theorem inStrings_scan (hlexicon : lexicon.Quoting) (quote previous : Option Char)
    (pending rest : Text) (hquotes : ∀ c ∈ rest, isQuote c = true → [c] ∈ lexicon.delimiters)
    (hcomment : ∀ token ∈ scan lexicon (.ofQuote quote) previous pending rest,
      token.kind ≠ .comment) :
    inStrings (scan lexicon (.ofQuote quote) previous pending rest) =
      List.replicate pending.length quote.isSome ++ quotedFrom quote previous rest := by
  induction rest generalizing quote previous pending with
  | nil =>
    cases quote with
    | none =>
      simp [scan, kindIn, ScanState.ofQuote, ScanState.start, inStrings, wordKind_ne_string,
        quotedFrom]
    | some q => simp [scan, kindIn, ScanState.ofQuote, inStrings, quotedFrom]
  | cons c rest ih =>
    have hcons := scan_ofQuote_cons hlexicon (hquotes c List.mem_cons_self) hcomment
    rw [hcons] at hcomment ⊢
    rw [inStrings_append, ih _ _ _ (fun d hd => hquotes d (List.mem_cons_of_mem _ hd))
      (fun token h => hcomment token (List.mem_append_right _ h)), ← List.append_assoc,
      inStrings_advance, List.append_assoc, List.singleton_append, quotedFrom]

/-! ## Brackets -/

/-- The bracket that a token is, on its own and in code. -/
def bracket? : Token → Option Char
  | ⟨[c], .plain⟩ => if isBracket c then some c else none
  | _ => none

/-- The brackets that are tokens of their own, with their places; `place` is that of the first
token. -/
def placedBrackets (place : Nat) : List Token → List (Nat × Char)
  | [] => []
  | token :: tokens =>
    token.bracket?.toList.map (place, ·) ++ placedBrackets (place + token.text.length) tokens

theorem placedBrackets_append (place : Nat) (tokens more : List Token) :
    placedBrackets place (tokens ++ more) =
      placedBrackets place tokens ++ placedBrackets (place + (join tokens).length) more := by
  induction tokens generalizing place with
  | nil => rfl
  | cons token tokens ih =>
    simp only [List.cons_append, placedBrackets, ih, join_cons, List.length_append,
      List.append_assoc, Nat.add_assoc]

/-- What was collected in code holds no bracket, since brackets are tokens of their own. -/
theorem placedBrackets_collected {pending : Text} (h : ∀ c ∈ pending, isBracket c = false)
    (place : Nat) (kind : TokenKind) : placedBrackets place (collected kind pending) = [] := by
  match pending, kind, h with
  | [], _, _ => rfl
  | [c], .plain, h => simp [collected, placedBrackets, bracket?, h c List.mem_cons_self]
  | [_], .keyword, _ | [_], .builtin, _ | [_], .string, _ | [_], .comment, _
  | [_], .number, _ => rfl
  | _ :: _ :: _, _, _ => rfl

/-- Brackets end words. -/
theorem isBoundary_of_isBracket {c : Char} (h : isBracket c = true) : isBoundary c = true := by
  obtain ⟨b, rfl | rfl⟩ := isBracket_iff.1 h
  · cases b <;> decide
  · cases b <;> decide

/-- The invariant of what is collected: in code it holds no bracket. -/
def Unbracketed (quote : Option Char) (pending : Text) : Prop :=
  quote = none → ∀ c ∈ pending, isBracket c = false

theorem Unbracketed.advance {quote : Option Char} {pending : Text} (h : Unbracketed quote pending)
    (lexicon : Lexicon) (previous : Option Char) (c : Char) :
    Unbracketed (nextQuote quote previous c)
      (advance lexicon quote (nextQuote quote previous c) c pending).2 := by
  intro hnext
  rw [hnext]
  cases quote with
  | some q => simp [Token.advance]
  | none =>
    simp only [Token.advance]
    split
    · simp
    · next hword =>
      intro d hd
      rcases List.mem_append.1 hd with hd | hd
      · exact h rfl d hd
      · obtain rfl := List.mem_singleton.1 hd
        exact Bool.eq_false_iff.2 fun hbracket => hword (isBoundary_of_isBracket hbracket)

/-- **One character changes the stack** as the tokens it ends say. -/
theorem stackAfter_eq_matchPlaced {quote : Option Char} {pending : Text}
    (h : Unbracketed quote pending) (lexicon : Lexicon) (previous : Option Char) (c : Char)
    (place : Nat) (stack : List (Nat × Bracket)) :
    stackAfter quote (place + pending.length) c stack =
      matchPlaced stack (placedBrackets place
        (advance lexicon quote (nextQuote quote previous c) c pending).1) := by
  cases quote with
  | some q =>
    cases nextQuote (some q) previous c with
    | some q' => rfl
    | none => simp [advance, placedBrackets, bracket?, matchPlaced, stackAfter]
  | none =>
    have hpending := placedBrackets_collected (h rfl) place
    have hquote := isSome_nextQuote_none previous c
    cases hnext : nextQuote none previous c with
    | some q =>
      rw [hnext] at hquote
      simp only [advance, hpending]
      exact stackAfter_of_not_isBracket (isBracket_of_isQuote hquote.symm) _ _
    | none =>
      simp only [advance]
      split
      · next hboundary =>
        rw [placedBrackets_append, hpending, join_collected, List.nil_append]
        by_cases hbracket : isBracket c = true
        · simp [placedBrackets, bracket?, hbracket, matchPlaced]
        · rw [stackAfter_of_not_isBracket (by simpa using hbracket)]
          simp [placedBrackets, bracket?, hbracket, matchPlaced]
      · next hword =>
        refine stackAfter_of_not_isBracket (Bool.eq_false_iff.2 fun hbracket => ?_) _ _
        exact hword (isBoundary_of_isBracket hbracket)

/-- **The brackets that count are those that are tokens**, at the places where these stand. -/
theorem openFrom_eq_matchPlaced (hlexicon : lexicon.Quoting) (stack : List (Nat × Bracket))
    (quote previous : Option Char) (place : Nat) (pending rest : Text)
    (hpending : Unbracketed quote pending)
    (hquotes : ∀ c ∈ rest, isQuote c = true → [c] ∈ lexicon.delimiters)
    (hcomment : ∀ token ∈ scan lexicon (.ofQuote quote) previous pending rest,
      token.kind ≠ .comment) :
    openFrom stack quote previous (place + pending.length) rest =
      matchPlaced stack
        (placedBrackets place (scan lexicon (.ofQuote quote) previous pending rest)) := by
  induction rest generalizing stack quote previous place pending with
  | nil =>
    cases quote with
    | none => rw [scan, placedBrackets_collected (hpending rfl)]; rfl
    | some q =>
      rw [scan]
      cases pending <;> simp [kindIn, ScanState.ofQuote, collected, placedBrackets, bracket?,
        openFrom, matchPlaced]
  | cons c rest ih =>
    have hcons := scan_ofQuote_cons hlexicon (hquotes c List.mem_cons_self) hcomment
    rw [hcons] at hcomment ⊢
    have hlength := congrArg List.length
      (join_advance lexicon quote (nextQuote quote previous c) c pending)
    rw [List.length_append, List.length_append, List.length_singleton] at hlength
    rw [openFrom_cons, stackAfter_eq_matchPlaced hpending lexicon previous, Nat.add_assoc,
      ← hlength, ← Nat.add_assoc, ih _ _ _ _ _ (hpending.advance lexicon previous c)
        (fun d hd => hquotes d (List.mem_cons_of_mem _ hd))
        (fun token h => hcomment token (List.mem_append_right _ h)),
      placedBrackets_append, matchPlaced, matchPlaced, matchPlaced, List.foldl_append]

/-! ## A line of a built-in language -/

/-- The class of the character at a place, where it is no quote, says whether it is quoted. -/
theorem outside_iff_kind_ne_string (hlexicon : lexicon.Quoting) {text : Text}
    (hquotes : ∀ c ∈ text, isQuote c = true → [c] ∈ lexicon.delimiters)
    (hcomment : ∀ token ∈ classify lexicon text, token.kind ≠ .comment) {place : Nat} {c : Char}
    (hc : text[place]? = some c) (hquote : isQuote c = false) :
    ∃ kind, (kinds (classify lexicon text))[place]? = some kind ∧
      (Outside text place ↔ kind ≠ .string) := by
  have hstrings := congrArg (·[place]?) (inStrings_scan hlexicon none none [] text hquotes hcomment)
  simp only [List.length_nil, List.replicate_zero, List.nil_append, getElem?_quotedFrom, hc,
    Option.map_some, hquote, Bool.or_false, inStrings, List.getElem?_map,
    Option.map_eq_some_iff] at hstrings
  obtain ⟨kind, hkind, hstring⟩ := hstrings
  refine ⟨kind, hkind, ?_⟩
  have hplace := (List.getElem?_eq_some_iff.1 hc).1
  rw [outside_iff, quoteAt, ne_eq, ← decide_eq_false_iff_not, hstring, Option.isSome_eq_false_iff,
    Option.isNone_iff_eq_none]
  exact ⟨fun h => h.2, fun h => ⟨hplace.le, h⟩⟩

/-- **The tokens and the open brackets agree on what is quoted.** On a line of a built-in language
where every quote can delimit a string and no token is a comment, a bracket counts just if it is in
no string, and the brackets still open are those left by matching the tokens that are brackets. -/
theorem unclosed_eq_of_tokens {language : Language} (hlanguage : language ∈ Language.builtIn)
    {text : Text} (hquotes : ∀ c ∈ text, isQuote c = true → [c] ∈ language.lexicon.delimiters)
    (hcomment : ∀ token ∈ classify language.lexicon text, token.kind ≠ .comment) :
    (∀ place c, text[place]? = some c → isBracket c = true →
        ∃ kind, (kinds (classify language.lexicon text))[place]? = some kind ∧
          (Outside text place ↔ kind ≠ .string)) ∧
      unclosed text =
        (matchPlaced [] (placedBrackets 0 (classify language.lexicon text))).reverse := by
  have hlexicon := Lexicon.quoting_of_mem_builtIn hlanguage
  constructor
  · intro place c hc hbracket
    refine outside_iff_kind_ne_string hlexicon hquotes hcomment hc
      (Bool.eq_false_iff.2 fun hquote => ?_)
    rw [isBracket_of_isQuote hquote] at hbracket
    cases hbracket
  · exact congrArg List.reverse (openFrom_eq_matchPlaced hlexicon [] none none 0 [] text
      (fun _ => List.forall_mem_nil _) hquotes hcomment)

/-- A bracket after an escaped quote and one in a string that does not end are quoted; a call and
the square brackets in it are not. -/
theorem unclosed_eq_of_tokens_escaped_quote :
    (∀ c ∈ ("f(\"a\\\")\" + g[0], '(" : Text), isQuote c = true →
        [c] ∈ Language.javaScript.lexicon.delimiters) ∧
      (∀ token ∈ classify Language.javaScript.lexicon "f(\"a\\\")\" + g[0], '(",
        token.kind ≠ .comment) ∧
      ¬ Outside "f(\"a\\\")\" + g[0], '(" 6 ∧
      placedBrackets 0 (classify Language.javaScript.lexicon "f(\"a\\\")\" + g[0], '(") =
        [(1, '('), (12, '['), (14, ']')] ∧
      unclosed "f(\"a\\\")\" + g[0], '(" = [(1, .round)] := by
  have hlanguage : Language.javaScript ∈ Language.builtIn := .tail _ (.head _)
  have hquotes : ∀ c ∈ ("f(\"a\\\")\" + g[0], '(" : Text), isQuote c = true →
      [c] ∈ Language.javaScript.lexicon.delimiters := by
    have hall : ("f(\"a\\\")\" + g[0], '(" : Text).all (fun c =>
        !isQuote c || [c] ∈ Language.javaScript.lexicon.delimiters) = true := by decide +kernel
    intro c hc hquote
    simpa [hquote] using List.all_eq_true.1 hall c hc
  have hcomment : ∀ token ∈ classify Language.javaScript.lexicon "f(\"a\\\")\" + g[0], '(",
      token.kind ≠ .comment := by decide +kernel
  have hplaced : placedBrackets 0
      (classify Language.javaScript.lexicon "f(\"a\\\")\" + g[0], '(") =
        [(1, '('), (12, '['), (14, ']')] := by decide +kernel
  have hkind : (kinds (classify Language.javaScript.lexicon "f(\"a\\\")\" + g[0], '("))[6]? =
      some .string := by decide +kernel
  obtain ⟨hquoted, hunclosed⟩ := unclosed_eq_of_tokens hlanguage hquotes hcomment
  refine ⟨hquotes, hcomment, ?_, hplaced, ?_⟩
  · obtain ⟨kind, hsome, hiff⟩ := hquoted 6 ')' (by decide) (by decide)
    obtain rfl := Option.some.inj (hkind.symm.trans hsome)
    exact fun houtside => hiff.1 houtside rfl
  · rw [hunclosed, hplaced]
    decide

end Token

end CodeKeyboard
