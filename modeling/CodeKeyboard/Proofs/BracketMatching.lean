import CodeKeyboard.Proofs.BracketQuotes
import Mathlib.Algebra.Order.Interval.Finset.SuccPred
import Mathlib.Data.Nat.SuccPred
import Mathlib.Order.Interval.Finset.Nat

/-!
# The brackets that stay open, by counting

The scan keeps one stack for the three kinds of brackets, and a closing bracket takes the latest one
of its own kind out of its middle. Seen from one kind, that is a stack of places on which an opening
bracket is put and from which a closing one takes the top.

A place is on the stack of its kind just if the closing brackets after it never outnumber the
opening ones after it. The invariant that carries this through a closing bracket is exact: the place
with `i` others above it has `i` more opening than closing brackets after it. So the closing bracket
makes a difference to the top one alone.

- `Bracket.Tracks`: the invariant of the stack of one kind; `Tracks.open_step`,
  `Tracks.close_step` and `Tracks.pass_step` are its steps.
- `Bracket.stackState_openFrom`: it holds of all three kinds along the scan.
- `Bracket.unclosed_map_keepKind`: the brackets of one kind stay open as if there were no others.
- `Bracket.unclosed_exact`: what `Bracket.unclosed` is.
-/

namespace CodeKeyboard

namespace Bracket

/-! ## Counting brackets -/

/-- The character stands at the place, outside of quotes. -/
def Unquoted (text : Text) (c : Char) (p : Nat) : Prop :=
  Outside text p ∧ text[p]? = some c

instance (text : Text) (c : Char) : DecidablePred (Unquoted text c) :=
  fun _ => inferInstanceAs (Decidable (_ ∧ _))

/-- How often the character stands outside of quotes at the places after `p` up to `q`. -/
def tally (text : Text) (c : Char) (p q : Nat) : Nat :=
  ((Finset.Ioc p q).filter (Unquoted text c)).card

variable {text : Text} {b : Bracket} {n : Nat}

@[simp] theorem tally_self (text : Text) (c : Char) (n : Nat) : tally text c n n = 0 := by
  simp [tally]

/-- One more place counts just if the character stands there outside of quotes. -/
theorem tally_step {c : Char} {p : Nat} (hp : p < n) :
    tally text c p n = tally text c p (n - 1) + if Unquoted text c n then 1 else 0 := by
  obtain ⟨m, rfl⟩ : ∃ m, n = m + 1 := ⟨n - 1, by omega⟩
  have hnew : m + 1 ∉ (Finset.Ioc p m).filter (Unquoted text c) := by simp
  rw [tally, ← Finset.insert_Ioc_right_eq_Ioc_add_one (Nat.le_of_lt_succ hp), Finset.filter_insert,
    Nat.add_sub_cancel]
  split
  · exact Finset.card_insert_of_notMem hnew
  · rfl

/-! ## The stack of one kind -/

/-- The opening bracket at `p` is open still when the line is regarded up to `n`. -/
structure StaysOpen (text : Text) (b : Bracket) (n p : Nat) : Prop where
  lt : p < n
  opens : Unquoted text b.opener p
  closes_le : ∀ q, p < q → q < n → tally text b.closer p q ≤ tally text b.opener p q

/-- One more character decides by itself about an opening bracket before it. -/
theorem staysOpen_succ_iff {p : Nat} (hp : p < n) :
    StaysOpen text b (n + 1) p ↔
      StaysOpen text b n p ∧ tally text b.closer p n ≤ tally text b.opener p n := by
  constructor
  · intro h
    exact ⟨⟨hp, h.opens, fun q hq hq' => h.closes_le q hq (by omega)⟩,
      h.closes_le n hp (Nat.lt_succ_self n)⟩
  · rintro ⟨h, hn⟩
    refine ⟨by omega, h.opens, fun q hq hq' => ?_⟩
    rcases Nat.lt_succ_iff_lt_or_eq.1 hq' with hlt | rfl
    · exact h.closes_le q hq hlt
    · exact hn

/-- An opening bracket is open when it has just been read. -/
theorem staysOpen_self_iff : StaysOpen text b (n + 1) n ↔ Unquoted text b.opener n :=
  ⟨fun h => h.opens, fun h => ⟨Nat.lt_succ_self n, h, fun q hq hq' => by omega⟩⟩

/-- **The invariant of the stack of one kind**, innermost place first. -/
structure Tracks (text : Text) (b : Bracket) (n : Nat) (places : List Nat) : Prop where
  mem_iff : ∀ p, p ∈ places ↔ StaysOpen text b n p
  surplus : ∀ (i p : Nat), places[i]? = some p →
    tally text b.opener p (n - 1) = tally text b.closer p (n - 1) + i

theorem tracks_start (text : Text) (b : Bracket) : Tracks text b 0 [] :=
  ⟨fun p => ⟨fun h => by simp at h, fun h => absurd h.lt (Nat.not_lt_zero p)⟩,
    fun i p h => by simp at h⟩

namespace Tracks

variable {places : List Nat} {i p : Nat}

theorem lt (h : Tracks text b n places) (hp : p ∈ places) : p < n :=
  ((h.mem_iff p).1 hp).lt

/-- What stands at `n` changes the surplus of every place by the same. -/
theorem surplus_step (h : Tracks text b n places) (hi : places[i]? = some p) :
    tally text b.opener p n + (if Unquoted text b.closer n then 1 else 0) =
      tally text b.closer p n + i + if Unquoted text b.opener n then 1 else 0 := by
  have hp := h.lt (List.mem_of_getElem? hi)
  rw [tally_step hp, tally_step hp, h.surplus i p hi]
  omega

/-- An opening bracket is put on the stack. -/
theorem open_step (h : Tracks text b n places) (hopens : Unquoted text b.opener n)
    (hcloses : ¬ Unquoted text b.closer n) : Tracks text b (n + 1) (n :: places) := by
  have hcount : ∀ i p, places[i]? = some p →
      tally text b.opener p n = tally text b.closer p n + (i + 1) := by
    intro i p hi
    have hstep := h.surplus_step hi
    rwa [if_neg hcloses, if_pos hopens] at hstep
  refine ⟨fun p => ?_, fun i p hi => ?_⟩
  · rw [List.mem_cons]
    constructor
    · rintro (rfl | hp)
      · exact staysOpen_self_iff.2 hopens
      · obtain ⟨i, hi⟩ := List.getElem?_of_mem hp
        exact (staysOpen_succ_iff (h.lt hp)).2 ⟨(h.mem_iff p).1 hp, by rw [hcount i p hi]; omega⟩
    · intro hp
      rcases Nat.lt_succ_iff_lt_or_eq.1 hp.lt with hlt | rfl
      · exact .inr ((h.mem_iff p).2 ((staysOpen_succ_iff hlt).1 hp).1)
      · exact .inl rfl
  · cases i with
    | zero =>
      obtain rfl : n = p := by simpa using hi
      simp
    | succ i => exact hcount i p hi

/-- Without an opening bracket, what is on the stack next was on it before. -/
theorem mem_of_staysOpen_succ (h : Tracks text b n places) (hopens : ¬ Unquoted text b.opener n)
    (hp : StaysOpen text b (n + 1) p) : p < n ∧ p ∈ places ∧
      tally text b.closer p n ≤ tally text b.opener p n := by
  rcases Nat.lt_succ_iff_lt_or_eq.1 hp.lt with hlt | rfl
  · obtain ⟨hbefore, hle⟩ := (staysOpen_succ_iff hlt).1 hp
    exact ⟨hlt, (h.mem_iff p).2 hbefore, hle⟩
  · exact absurd hp.opens hopens

/-- A closing bracket takes the top of the stack, if there is one. -/
theorem close_step (h : Tracks text b n places) (hopens : ¬ Unquoted text b.opener n)
    (hcloses : Unquoted text b.closer n) : Tracks text b (n + 1) places.tail := by
  have hcount : ∀ i p, places[i]? = some p →
      tally text b.opener p n + 1 = tally text b.closer p n + i := by
    intro i p hi
    have hstep := h.surplus_step hi
    rwa [if_pos hcloses, if_neg hopens, Nat.add_zero] at hstep
  refine ⟨fun p => ?_, fun i p hi => ?_⟩
  · constructor
    · intro hp
      obtain ⟨i, hi⟩ := List.getElem?_of_mem hp
      rw [List.getElem?_tail] at hi
      have hmem := List.mem_of_getElem? hi
      have := hcount (i + 1) p hi
      exact (staysOpen_succ_iff (h.lt hmem)).2 ⟨(h.mem_iff p).1 hmem, by omega⟩
    · intro hp
      obtain ⟨-, hmem, hle⟩ := h.mem_of_staysOpen_succ hopens hp
      obtain ⟨i, hi⟩ := List.getElem?_of_mem hmem
      have := hcount i p hi
      -- the top has no surplus, so this place is below it
      obtain ⟨i, rfl⟩ : ∃ j, i = j + 1 := ⟨i - 1, by omega⟩
      exact List.mem_of_getElem? (List.getElem?_tail.trans hi)
  · rw [List.getElem?_tail] at hi
    have := hcount (i + 1) p hi
    rw [Nat.add_sub_cancel]
    omega

/-- Anything else leaves the stack as it is. -/
theorem pass_step (h : Tracks text b n places) (hopens : ¬ Unquoted text b.opener n)
    (hcloses : ¬ Unquoted text b.closer n) : Tracks text b (n + 1) places := by
  have hcount : ∀ i p, places[i]? = some p →
      tally text b.opener p n = tally text b.closer p n + i := by
    intro i p hi
    have hstep := h.surplus_step hi
    rwa [if_neg hcloses, if_neg hopens] at hstep
  refine ⟨fun p => ⟨fun hp => ?_, fun hp => ?_⟩, hcount⟩
  · obtain ⟨i, hi⟩ := List.getElem?_of_mem hp
    exact (staysOpen_succ_iff (h.lt hp)).2 ⟨(h.mem_iff p).1 hp, by rw [hcount i p hi]; omega⟩
  · exact (h.mem_of_staysOpen_succ hopens hp).2.1

end Tracks

/-! ## The stack of the scan -/

/-- The stack after one more character, given the quote that is open before it. -/
def stackAfter (quote : Option Char) (offset : Nat) (c : Char) (stack : List (Nat × Bracket)) :
    List (Nat × Bracket) :=
  match quote, opened? c, closed? c with
  | some _, _, _ => stack
  | none, some b, _ => (offset, b) :: stack
  | none, none, some b => closeLatest b stack
  | none, none, none => stack

theorem opened?_eq_some_iff {c : Char} : opened? c = some b ↔ c = b.opener := by
  constructor
  · intro h
    rw [opened?] at h
    have hfound : b.opener = c := by simpa using List.find?_some h
    exact hfound.symm
  · rintro rfl
    cases b <;> rfl

theorem closed?_eq_some_iff {c : Char} : closed? c = some b ↔ c = b.closer := by
  constructor
  · intro h
    rw [closed?] at h
    have hfound : b.closer = c := by simpa using List.find?_some h
    exact hfound.symm
  · rintro rfl
    cases b <;> rfl

theorem opener_inj {b b' : Bracket} : b.opener = b'.opener ↔ b = b' := by
  cases b <;> cases b' <;> decide

theorem closer_inj {b b' : Bracket} : b.closer = b'.closer ↔ b = b' := by
  cases b <;> cases b' <;> decide

theorem opener_ne_closer (b b' : Bracket) : b.opener ≠ b'.closer := by
  cases b <;> cases b' <;> decide

theorem not_isQuote_of_opened? {c : Char} (h : opened? c = some b) : isQuote c = false := by
  obtain rfl := opened?_eq_some_iff.1 h
  cases b <;> decide

theorem not_isQuote_of_closed? {c : Char} (h : closed? c = some b) : isQuote c = false := by
  obtain rfl := closed?_eq_some_iff.1 h
  cases b <;> decide

/-- **The scan goes on with the stack and the quote after the character.** -/
theorem openFrom_cons (stack : List (Nat × Bracket)) (quote previous : Option Char) (offset : Nat)
    (c : Char) (s : Text) :
    openFrom stack quote previous offset (c :: s) =
      openFrom (stackAfter quote offset c stack) (nextQuote quote previous c) (some c)
        (offset + 1) s := by
  cases quote with
  | some q => rfl
  | none =>
    rw [openFrom, nextQuote]
    unfold stackAfter
    cases hopened : opened? c with
    | some b => simp [not_isQuote_of_opened? hopened]
    | none =>
      cases hclosed : closed? c with
      | some b => simp [not_isQuote_of_closed? hclosed]
      | none => split <;> rfl

/-- The places of the stack at which a bracket of the kind was opened. -/
def placesOf (b : Bracket) (stack : List (Nat × Bracket)) : List Nat :=
  (stack.filter (·.2 = b)).map Prod.fst

theorem mem_placesOf {stack : List (Nat × Bracket)} {p : Nat} :
    p ∈ placesOf b stack ↔ (p, b) ∈ stack := by
  simp [placesOf]

/-- Of the brackets of its own kind a closing bracket takes the latest. -/
theorem filter_closeLatest_self (b : Bracket) (stack : List (Nat × Bracket)) :
    (closeLatest b stack).filter (·.2 = b) = (stack.filter (·.2 = b)).tail := by
  induction stack with
  | nil => rfl
  | cons entry stack ih =>
    by_cases h : entry.2 = b
    · simp [closeLatest, h]
    · have hkeep : closeLatest b (entry :: stack) = entry :: closeLatest b stack := by
        simp [closeLatest, h]
      have hother : (entry.2 = b : Bool) = false := by simpa using h
      rw [hkeep, List.filter_cons, List.filter_cons, hother]
      exact ih

/-- Brackets of another kind stay where they are. -/
theorem filter_closeLatest_of_ne {b' : Bracket} (hne : b' ≠ b) (stack : List (Nat × Bracket)) :
    (closeLatest b' stack).filter (·.2 = b) = stack.filter (·.2 = b) := by
  induction stack with
  | nil => rfl
  | cons entry stack ih =>
    by_cases h : entry.2 = b'
    · have htake : closeLatest b' (entry :: stack) = stack := by simp [closeLatest, h]
      have hother : ¬ entry.2 = b := by rw [h]; exact hne
      rw [htake, List.filter_cons_of_neg (by simpa using hother)]
    · have hkeep : closeLatest b' (entry :: stack) = entry :: closeLatest b' stack := by
        simp [closeLatest, h]
      rw [hkeep, List.filter_cons, List.filter_cons, ih]

/-- **One character changes the stack of one kind** as its own brackets say, outside of quotes. -/
theorem filter_stackAfter (quote : Option Char) (offset : Nat) (c : Char)
    (stack : List (Nat × Bracket)) :
    (stackAfter quote offset c stack).filter (·.2 = b) =
      if quote = none ∧ c = b.opener then (offset, b) :: stack.filter (·.2 = b)
      else if quote = none ∧ c = b.closer then (stack.filter (·.2 = b)).tail
      else stack.filter (·.2 = b) := by
  cases quote with
  | some q => simp [stackAfter]
  | none =>
    cases hopened : opened? c with
    | some b' =>
      obtain rfl := opened?_eq_some_iff.1 hopened
      by_cases hb : b' = b
      · subst hb
        simp [stackAfter, hopened]
      · simp [stackAfter, hopened, hb, opener_inj, opener_ne_closer]
    | none =>
      have hopen : c ≠ b.opener := by
        rintro rfl
        rw [opened?_eq_some_iff.2 rfl] at hopened
        cases hopened
      cases hclosed : closed? c with
      | some b' =>
        obtain rfl := closed?_eq_some_iff.1 hclosed
        by_cases hb : b' = b
        · subst hb
          simp [stackAfter, hopened, hopen, hclosed, filter_closeLatest_self]
        · simp [stackAfter, hopened, hopen, hclosed, hb, closer_inj, filter_closeLatest_of_ne hb]
      | none =>
        have hclose : c ≠ b.closer := by
          rintro rfl
          rw [closed?_eq_some_iff.2 rfl] at hclosed
          cases hclosed
        simp [stackAfter, hopened, hopen, hclosed, hclose]

/-- What is on the stack after a character was on it before or is opened by the character. -/
theorem mem_stackAfter {quote : Option Char} {offset : Nat} {c : Char}
    {stack : List (Nat × Bracket)} {entry : Nat × Bracket}
    (h : entry ∈ stackAfter quote offset c stack) :
    entry ∈ stack ∨ ∃ b, opened? c = some b ∧ entry = (offset, b) := by
  unfold stackAfter at h
  split at h
  · exact .inl h
  · next b hopened =>
    rcases List.mem_cons.1 h with rfl | h
    · exact .inr ⟨b, hopened, rfl⟩
    · exact .inl h
  · exact .inl (List.mem_of_mem_eraseP h)
  · exact .inl h

/-- **The invariant of the scan** at a place of the line. -/
structure StackState (text : Text) (n : Nat) (quote : Option Char) (stack : List (Nat × Bracket)) :
    Prop where
  quoted : QuoteState text n quote
  sorted : stack.Pairwise (·.1 > ·.1)
  below : ∀ entry ∈ stack, entry.1 < n
  tracks : ∀ b, Tracks text b n (placesOf b stack)

theorem stackState_start (text : Text) : StackState text 0 none [] :=
  ⟨Outside.start, .nil, fun entry h => by simp at h, tracks_start text⟩

section Step

variable {before rest : Text} {c : Char} {quote : Option Char} {stack : List (Nat × Bracket)}

/-- What stands at the place of the scan counts just if no quote is open. -/
theorem unquoted_iff (h : QuoteState (before ++ c :: rest) before.length quote) (d : Char) :
    Unquoted (before ++ c :: rest) d before.length ↔ quote = none ∧ c = d := by
  rw [Unquoted, h.outside_iff]
  simp

theorem tracks_stackAfter (hquote : QuoteState (before ++ c :: rest) before.length quote)
    (h : Tracks (before ++ c :: rest) b before.length (placesOf b stack)) :
    Tracks (before ++ c :: rest) b (before.length + 1)
      (placesOf b (stackAfter quote before.length c stack)) := by
  have hopener := unquoted_iff hquote b.opener
  have hcloser := unquoted_iff hquote b.closer
  rw [placesOf, filter_stackAfter]
  split
  · next hopen =>
    refine h.open_step (hopener.2 hopen) fun hclose => ?_
    exact opener_ne_closer b b (hopen.2.symm.trans (hcloser.1 hclose).2)
  · next hopen =>
    split
    · next hclose =>
      rw [List.map_tail]
      exact h.close_step (fun ho => hopen (hopener.1 ho)) (hcloser.2 hclose)
    · next hclose =>
      exact h.pass_step (fun ho => hopen (hopener.1 ho)) fun hc => hclose (hcloser.1 hc)

/-- The places of the stack stay in order, since only the latest one is put and any is taken. -/
theorem sorted_stackAfter {n : Nat} (hsorted : stack.Pairwise (·.1 > ·.1))
    (hbelow : ∀ entry ∈ stack, entry.1 < n) :
    (stackAfter quote n c stack).Pairwise (·.1 > ·.1) := by
  unfold stackAfter
  split
  · exact hsorted
  · exact List.pairwise_cons.2 ⟨hbelow, hsorted⟩
  · exact hsorted.sublist List.eraseP_sublist
  · exact hsorted

theorem below_stackAfter {n : Nat} (hbelow : ∀ entry ∈ stack, entry.1 < n) :
    ∀ entry ∈ stackAfter quote n c stack, entry.1 < n + 1 := by
  intro entry h
  obtain hold | ⟨b, -, rfl⟩ := mem_stackAfter h
  · exact Nat.lt_succ_of_lt (hbelow entry hold)
  · exact Nat.lt_succ_self n

/-- **One character keeps the invariant.** -/
theorem StackState.step (h : StackState (before ++ c :: rest) before.length quote stack) :
    StackState (before ++ c :: rest) (before.length + 1) (nextQuote quote before.getLast? c)
      (stackAfter quote before.length c stack) :=
  ⟨h.quoted.next, sorted_stackAfter h.sorted h.below, below_stackAfter h.below,
    fun b => tracks_stackAfter h.quoted (h.tracks b)⟩

end Step

/-- **The rest of the line keeps the invariant.** -/
theorem stackState_openFrom (before rest : Text) (quote : Option Char)
    (stack : List (Nat × Bracket)) (h : StackState (before ++ rest) before.length quote stack) :
    StackState (before ++ rest) (before ++ rest).length (quoteFrom quote before.getLast? rest)
      (openFrom stack quote before.getLast? before.length rest) := by
  induction rest generalizing before quote stack with
  | nil => simpa [openFrom, quoteFrom] using h
  | cons c rest ih =>
    have hstep : StackState (before ++ [c] ++ rest) (before ++ [c]).length
        (nextQuote quote before.getLast? c) (stackAfter quote before.length c stack) := by
      simpa using h.step
    rw [openFrom_cons, quoteFrom]
    simpa using ih (before ++ [c]) _ _ hstep

/-- At the end of a line the stack is what `unclosed` lists. -/
theorem stackState_unclosed (text : Text) :
    StackState text text.length (quoteFrom none none text) (unclosed text).reverse := by
  rw [unclosed, List.reverse_reverse]
  exact stackState_openFrom [] text none [] (stackState_start text)

theorem mem_unclosed_iff {p : Nat} :
    (p, b) ∈ unclosed text ↔ StaysOpen text b text.length p := by
  rw [← ((stackState_unclosed text).tracks b).mem_iff, mem_placesOf, List.mem_reverse]

theorem unclosed_sorted (text : Text) : (unclosed text).Pairwise (·.1 < ·.1) :=
  List.pairwise_reverse.1 (stackState_unclosed text).sorted

/-! ## One kind on its own -/

/-- A space in the place of a bracket of another kind. -/
def keepKind (b : Bracket) (c : Char) : Char :=
  if (opened? c).any (· ≠ b) || (closed? c).any (· ≠ b) then ' ' else c

variable {c : Char}

/-- Only brackets of another kind are blanked out. -/
theorem keepKind_eq_or (b : Bracket) (c : Char) :
    keepKind b c = c ∨
      keepKind b c = ' ' ∧ isQuote c = false ∧ c ≠ '\\' ∧ c ≠ b.opener ∧ c ≠ b.closer := by
  unfold keepKind
  split
  · next hother =>
    refine .inr ⟨rfl, ?_⟩
    rw [Bool.or_eq_true, Option.any_eq_true, Option.any_eq_true] at hother
    obtain ⟨b', hb, hne⟩ | ⟨b', hb, hne⟩ := hother
    · obtain rfl := opened?_eq_some_iff.1 hb
      revert hne
      cases b <;> cases b' <;> decide
    · obtain rfl := closed?_eq_some_iff.1 hb
      revert hne
      cases b <;> cases b' <;> decide
  · exact .inl rfl

/-- Characters that are no brackets of another kind are told from the rest as before. -/
theorem keepKind_eq_iff {d : Char} (hspace : d ≠ ' ')
    (hd : isQuote d = true ∨ d = '\\' ∨ d = b.opener ∨ d = b.closer) :
    keepKind b c = d ↔ c = d := by
  obtain hkept | ⟨hblank, hquote, hslash, hopener, hcloser⟩ := keepKind_eq_or b c
  · rw [hkept]
  · rw [hblank]
    refine ⟨fun h => absurd h.symm hspace, ?_⟩
    rintro rfl
    simp [hquote, hslash, hopener, hcloser] at hd

/-- The brackets that are left are of the kind. -/
theorem eq_of_opened?_keepKind {b' : Bracket} (h : opened? (keepKind b c) = some b') : b' = b := by
  unfold keepKind at h
  split at h
  · have hspace : opened? ' ' = none := by decide
    rw [hspace] at h
    cases h
  · next hkept =>
    by_contra hne
    simp [h, hne] at hkept

theorem keepKind_eq_opener_iff : keepKind b c = b.opener ↔ c = b.opener :=
  keepKind_eq_iff (by cases b <;> decide) (.inr (.inr (.inl rfl)))

theorem keepKind_eq_closer_iff : keepKind b c = b.closer ↔ c = b.closer :=
  keepKind_eq_iff (by cases b <;> decide) (.inr (.inr (.inr rfl)))

theorem keepKind_eq_backslash_iff : keepKind b c = '\\' ↔ c = '\\' :=
  keepKind_eq_iff (by decide) (.inr (.inl rfl))

theorem keepKind_eq_quote_iff {q : Char} (hq : isQuote q = true) : keepKind b c = q ↔ c = q := by
  refine keepKind_eq_iff ?_ (.inl hq)
  rintro rfl
  exact absurd hq (by decide)

theorem isQuote_keepKind (b : Bracket) (c : Char) : isQuote (keepKind b c) = isQuote c := by
  obtain hkept | ⟨hblank, hquote, -⟩ := keepKind_eq_or b c
  · rw [hkept]
  · rw [hblank, hquote]
    rfl

/-- Blanking out brackets leaves the quotes as they are. -/
theorem nextQuote_keepKind (b : Bracket) {quote : Option Char} (previous : Option Char) (c : Char)
    (hquote : ∀ q ∈ quote, isQuote q = true) :
    nextQuote quote (previous.map (keepKind b)) (keepKind b c) = nextQuote quote previous c := by
  cases quote with
  | some q =>
    have hescaped : previous.map (keepKind b) = some '\\' ↔ previous = some '\\' := by
      simp [Option.map_eq_some_iff, keepKind_eq_backslash_iff]
    have hbool : (previous.map (keepKind b) != some '\\') = (previous != some '\\') := by
      rw [Bool.eq_iff_iff, bne_iff_ne, bne_iff_ne, ne_eq, ne_eq, hescaped]
    simp only [nextQuote, keepKind_eq_quote_iff (hquote q rfl), hbool]
  | none =>
    rw [nextQuote, nextQuote, isQuote_keepKind]
    split
    · next hc => rw [(keepKind_eq_quote_iff hc).2 rfl]
    · rfl

theorem isQuote_nextQuote {quote : Option Char} (previous : Option Char) (c : Char)
    (hquote : ∀ q ∈ quote, isQuote q = true) :
    ∀ q ∈ nextQuote quote previous c, isQuote q = true := by
  cases quote with
  | some q =>
    rw [nextQuote]
    split
    · simp
    · exact hquote
  | none =>
    rw [nextQuote]
    split
    · next hc => simpa using hc
    · simp

/-- Of the characters that are left, none touches the stack but those of the kind. -/
theorem stackAfter_keepKind (b : Bracket) (quote : Option Char) (offset : Nat) (c : Char)
    (stack : List (Nat × Bracket)) :
    stackAfter quote offset (keepKind b c) (stack.filter (·.2 = b)) =
      (stackAfter quote offset c stack).filter (·.2 = b) := by
  have honly : ∀ entry ∈ stackAfter quote offset (keepKind b c) (stack.filter (·.2 = b)),
      entry.2 = b := by
    intro entry hentry
    obtain hold | ⟨b', hopened, rfl⟩ := mem_stackAfter hentry
    · simpa using (List.mem_filter.1 hold).2
    · exact eq_of_opened?_keepKind hopened
  -- so the stack on the left is what it holds of the kind, like the one on the right
  rw [← List.filter_eq_self.2 (fun entry h => decide_eq_true (honly entry h)), filter_stackAfter,
    filter_stackAfter, List.filter_filter]
  simp [keepKind_eq_opener_iff, keepKind_eq_closer_iff]

/-- **The scan of the brackets of one kind is the scan of all, seen from that kind.** -/
theorem openFrom_map_keepKind (b : Bracket) (stack : List (Nat × Bracket))
    (quote previous : Option Char) (offset : Nat) (s : Text)
    (hquote : ∀ q ∈ quote, isQuote q = true) :
    openFrom (stack.filter (·.2 = b)) quote (previous.map (keepKind b)) offset
        (s.map (keepKind b)) =
      (openFrom stack quote previous offset s).filter (·.2 = b) := by
  induction s generalizing stack quote previous offset with
  | nil => rfl
  | cons c s ih =>
    rw [List.map_cons, openFrom_cons, openFrom_cons, stackAfter_keepKind,
      nextQuote_keepKind b previous c hquote]
    exact ih (stackAfter quote offset c stack) (nextQuote quote previous c) (some c) (offset + 1)
      (isQuote_nextQuote previous c hquote)

/-- **The brackets of a kind stay open as if there were no others.** -/
theorem unclosed_map_keepKind (b : Bracket) (text : Text) :
    unclosed (text.map (keepKind b)) = (unclosed text).filter (·.2 = b) := by
  have hscan := openFrom_map_keepKind b [] none none 0 text (by simp)
  rw [List.filter_nil, Option.map_none] at hscan
  rw [unclosed, unclosed, hscan, List.filter_reverse]

/-- **The brackets that stay open are told by counting.** They are listed in the order of their
places. At a place stands one of them just if an opening bracket stands there outside of quotes and
up to no place after it more brackets of its kind are closed than opened. The kinds do not disturb
each other: blanking out the others leaves those of one kind. -/
theorem unclosed_exact (text : Text) :
    (unclosed text).Pairwise (·.1 < ·.1) ∧
      (∀ p b, (p, b) ∈ unclosed text ↔
        text[p]? = some b.opener ∧ Outside text p ∧
          ∀ q, p < q → q < text.length → tally text b.closer p q ≤ tally text b.opener p q) ∧
      ∀ b, (unclosed text).filter (·.2 = b) = unclosed (text.map (keepKind b)) := by
  refine ⟨unclosed_sorted text, fun p b => ?_, fun b => (unclosed_map_keepKind b text).symm⟩
  rw [mem_unclosed_iff]
  constructor
  · intro h
    exact ⟨h.opens.2, h.opens.1, h.closes_le⟩
  · rintro ⟨hopener, houtside, hle⟩
    exact ⟨(List.getElem?_eq_some_iff.1 hopener).1, ⟨houtside, hopener⟩, hle⟩

end Bracket

end CodeKeyboard
