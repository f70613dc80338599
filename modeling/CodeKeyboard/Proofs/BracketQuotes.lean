import CodeKeyboard.Bracket

/-!
# Which places of a line are quoted

A quote character that is met outside of quotes opens a quote, and it ends at the next equal
character that has no backslash right before it. `Bracket.Outside` says so of the places of a line,
by the ends of whole quotes and without a scan. The scan keeps one character of state instead, the
quote that is open.

- `Bracket.QuoteEnds.unique`: a quote has one end.
- `Bracket.exists_quoteEnds`: who is outside of quotes after a quote was opened has passed its end.
  So no place inside a quote is reached in another way.
- `Bracket.QuoteState`: what the quote that is kept means for the places of the line. One more
  character keeps it (`QuoteState.next`).
- `Bracket.outside_iff`: the places outside of quotes are those where the scan keeps no quote, so
  `Bracket.Outside` can be decided.
-/

namespace CodeKeyboard

namespace Bracket

/-- The quote opened at `i` ends at `j`, the next equal character without a backslash before it. -/
structure QuoteEnds (text : Text) (i j : Nat) : Prop where
  lt : i < j
  same : text[j]? = text[i]?
  unescaped : text[j - 1]? ≠ some '\\'
  first : ∀ k, i < k → k < j → text[k]? = text[i]? → text[k - 1]? = some '\\'

/-- The place is outside of quotes: the first one is, the one after a character outside that is no
quote, and the one after the end of a quote. -/
inductive Outside (text : Text) : Nat → Prop
  | start : Outside text 0
  | next {i : Nat} {c : Char} (outside : Outside text i) (here : text[i]? = some c)
      (hc : isQuote c = false) : Outside text (i + 1)
  | close {i j : Nat} {c : Char} (outside : Outside text i) (here : text[i]? = some c)
      (hc : isQuote c = true) (ends : QuoteEnds text i j) : Outside text (j + 1)

variable {text : Text}

theorem QuoteEnds.unique {i j j' : Nat} (h : QuoteEnds text i j) (h' : QuoteEnds text i j') :
    j = j' := by
  rcases Nat.lt_trichotomy j j' with hlt | heq | hgt
  · exact absurd (h'.first j h.lt hlt h.same) h.unescaped
  · exact heq
  · exact absurd (h.first j' h'.lt hgt h'.same) h'.unescaped

theorem Outside.le_length {n : Nat} (h : Outside text n) : n ≤ text.length := by
  cases h with
  | start => exact Nat.zero_le _
  | next _ here _ => exact (List.getElem?_eq_some_iff.1 here).1
  | close _ here _ ends =>
    have hj := ends.same.trans here
    exact (List.getElem?_eq_some_iff.1 hj).1

/-- Outside of quotes at a later place, the quote opened at `i` has ended. -/
theorem exists_quoteEnds {i m : Nat} {c : Char} (hi : Outside text i) (here : text[i]? = some c)
    (hc : isQuote c = true) (hm : Outside text m) (hlt : i < m) :
    ∃ e, QuoteEnds text i e ∧ e < m := by
  induction m using Nat.strongRecOn generalizing i c with
  | ind m ih =>
    cases hm with
    | start => exact absurd hlt (Nat.not_lt_zero i)
    | @next p d hp hered hd =>
      rcases Nat.lt_succ_iff_lt_or_eq.1 hlt with hip | rfl
      · obtain ⟨e, he, hep⟩ := ih p (Nat.lt_succ_self p) hi here hc hp hip
        exact ⟨e, he, Nat.lt_succ_of_lt hep⟩
      · rw [here] at hered
        cases hered
        rw [hc] at hd
        cases hd
    | @close p j d hp hered hd ends =>
      rcases Nat.lt_trichotomy i p with hip | rfl | hpi
      · obtain ⟨e, he, hep⟩ := ih p (Nat.lt_succ_of_lt ends.lt) hi here hc hp hip
        exact ⟨e, he, by have := ends.lt; omega⟩
      · exact ⟨j, ends, Nat.lt_succ_self j⟩
      · -- the place `i` would lie inside the quote opened at `p`, which has not ended before it
        obtain ⟨e, he, hei⟩ := ih i hlt hp hered hd hi hpi
        have : e = j := he.unique ends
        omega

/-! ## The quote that the scan keeps -/

/-- The quote that is open after one more character. -/
def nextQuote (quote previous : Option Char) (c : Char) : Option Char :=
  match quote with
  | some q => if c = q && previous != some '\\' then none else some q
  | none => if isQuote c then some c else none

/-- The quote that is open after some more characters. -/
def quoteFrom (quote previous : Option Char) : Text → Option Char
  | [] => quote
  | c :: s => quoteFrom (nextQuote quote previous c) (some c) s

/-- The quote that is open at a place of a line. -/
def quoteAt (text : Text) (n : Nat) : Option Char :=
  quoteFrom none none (text.take n)

/-- What an open quote means: it was opened outside of quotes and has not ended yet. -/
def QuoteState (text : Text) (n : Nat) : Option Char → Prop
  | none => Outside text n
  | some q => ∃ i < n, Outside text i ∧ text[i]? = some q ∧ isQuote q = true ∧
      ∀ k, i < k → k < n → text[k]? = some q → text[k - 1]? = some '\\'

/-- A place is outside of quotes just if no quote is kept there. -/
theorem QuoteState.outside_iff {n : Nat} {quote : Option Char} (h : QuoteState text n quote) :
    Outside text n ↔ quote = none := by
  cases quote with
  | none => exact ⟨fun _ => rfl, fun _ => h⟩
  | some q =>
    refine ⟨fun hn => ?_, fun hq => by cases hq⟩
    obtain ⟨i, hin, hi, here, hq, hinside⟩ := h
    obtain ⟨e, he, hen⟩ := exists_quoteEnds hi here hq hn hin
    exact absurd (hinside e he.lt hen (he.same.trans here)) he.unescaped

/-- **One more character keeps what the open quote means.** -/
theorem QuoteState.next {before rest : Text} {c : Char} {quote : Option Char}
    (h : QuoteState (before ++ c :: rest) before.length quote) :
    QuoteState (before ++ c :: rest) (before.length + 1)
      (nextQuote quote before.getLast? c) := by
  have hhere : (before ++ c :: rest)[before.length]? = some c := by simp
  cases quote with
  | none =>
    rw [nextQuote]
    split
    · next hc =>
      exact ⟨before.length, Nat.lt_succ_self _, h, hhere, hc, fun k hk hk' => by omega⟩
    · next hc => exact Outside.next h hhere (by simpa using hc)
  | some q =>
    obtain ⟨i, hin, hi, here, hq, hinside⟩ := h
    have hprevious : before.getLast? = (before ++ c :: rest)[before.length - 1]? := by
      rw [List.getLast?_eq_getElem?, List.getElem?_append_left (by omega)]
    rw [nextQuote]
    split
    · next hends =>
      rw [Bool.and_eq_true, decide_eq_true_eq, bne_iff_ne, hprevious] at hends
      obtain ⟨rfl, hunescaped⟩ := hends
      -- no equal character inside the quote was without a backslash, so this one is the first
      refine .close hi here hq ⟨hin, hhere.trans here.symm, hunescaped, fun k hk hk' hsame => ?_⟩
      exact hinside k hk hk' (hsame.trans here)
    · next hgoes =>
      refine ⟨i, Nat.lt_succ_of_lt hin, hi, here, hq, fun k hk hk' hsame => ?_⟩
      rcases Nat.lt_succ_iff_lt_or_eq.1 hk' with hlt | rfl
      · exact hinside k hk hlt hsame
      · rw [hhere] at hsame
        cases hsame
        simpa [← hprevious] using hgoes

theorem quoteState_quoteFrom (before middle rest : Text) (quote : Option Char)
    (h : QuoteState (before ++ (middle ++ rest)) before.length quote) :
    QuoteState (before ++ (middle ++ rest)) (before ++ middle).length
      (quoteFrom quote before.getLast? middle) := by
  induction middle generalizing before quote with
  | nil => simpa [quoteFrom] using h
  | cons c middle ih =>
    have hstep : QuoteState (before ++ [c] ++ (middle ++ rest)) (before ++ [c]).length
        (nextQuote quote before.getLast? c) := by simpa using h.next
    simpa [quoteFrom] using ih (before ++ [c]) _ hstep

theorem quoteState_quoteAt {n : Nat} (h : n ≤ text.length) :
    QuoteState text n (quoteAt text n) := by
  have hstart := quoteState_quoteFrom [] (text.take n) (text.drop n) none Outside.start
  rw [List.nil_append, List.nil_append, List.take_append_drop, List.length_take,
    Nat.min_eq_left h] at hstart
  exact hstart

/-- **A place of the line is outside of quotes just if the scan keeps no quote there.** -/
theorem outside_iff {n : Nat} : Outside text n ↔ n ≤ text.length ∧ quoteAt text n = none := by
  constructor
  · intro h
    exact ⟨h.le_length, (quoteState_quoteAt h.le_length).outside_iff.1 h⟩
  · rintro ⟨hn, hquote⟩
    exact (quoteState_quoteAt hn).outside_iff.2 hquote

instance (text : Text) (n : Nat) : Decidable (Outside text n) :=
  decidable_of_iff _ outside_iff.symm

end Bracket

end CodeKeyboard
