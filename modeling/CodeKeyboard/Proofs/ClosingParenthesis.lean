import CodeKeyboard.Proofs.BracketMatching
import CodeKeyboard.Proofs.SuggestedLabels

/-!
# Accepting a closing parenthesis

A closing parenthesis is suggested for a call in progress whose last argument looks complete, and
complete it looks when its last character can end a value. That the character is not in a quote is
not asked for. So outside of quotes the parenthesis closes the call it was suggested for, and in a
quote that is still open it becomes quoted text and closes nothing.

- `Bracket.unclosed_append_closer`: what one more closing bracket does to the open ones.
- `Cascade.openCall_of_score_pos`: a closing parenthesis is only suggested for a call in progress.
- `Cascade.closing_parenthesis_closes_iff`: when the suggested parenthesis closes the call.
-/

namespace CodeKeyboard

namespace Bracket

variable {b : Bracket} {line : Text}

/-! ## One more character -/

/-- The scan of a text goes on with what the scan of its beginning has left. -/
theorem openFrom_append (stack : List (Nat × Bracket)) (quote previous : Option Char)
    (offset : Nat) (s t : Text) :
    openFrom stack quote previous offset (s ++ t) =
      openFrom (openFrom stack quote previous offset s) (quoteFrom quote previous s)
        (s.getLast?.or previous) (offset + s.length) t := by
  induction s generalizing stack quote previous offset with
  | nil => rfl
  | cons c s ih =>
    have hoffset : offset + (c :: s).length = offset + 1 + s.length := by
      rw [List.length_cons]
      omega
    have hlast : (c :: s).getLast?.or previous = s.getLast?.or (some c) := by
      rw [List.getLast?_cons]
      cases s.getLast? <;> rfl
    rw [List.cons_append, openFrom_cons, openFrom_cons, ih, quoteFrom, hoffset, hlast]

/-- **One more character at the end** changes the stack as the quote that is open there says. -/
theorem openFrom_concat (stack : List (Nat × Bracket)) (quote previous : Option Char)
    (offset : Nat) (s : Text) (c : Char) :
    openFrom stack quote previous offset (s ++ [c]) =
      stackAfter (quoteFrom quote previous s) (offset + s.length) c
        (openFrom stack quote previous offset s) := by
  rw [openFrom_append, openFrom_cons]
  rfl

/-- The end of a line is outside of quotes just if the scan of the line keeps no quote. -/
theorem outside_length_iff : Outside line line.length ↔ quoteFrom none none line = none := by
  rw [outside_iff, quoteAt, List.take_length]
  simp

/-- Outside of quotes a closing bracket takes the latest open one of its kind. -/
theorem stackAfter_closer (b : Bracket) (offset : Nat) (stack : List (Nat × Bracket)) :
    stackAfter none offset b.closer stack = closeLatest b stack := by
  cases b <;> rfl

/-- **A closing bracket at the end of a line** closes the latest one of its kind that is open, and
in a quote it closes none. -/
theorem unclosed_append_closer (b : Bracket) (line : Text) :
    unclosed (line ++ [b.closer]) =
      if Outside line line.length then (closeLatest b (unclosed line).reverse).reverse
      else unclosed line := by
  rw [unclosed, openFrom_concat]
  split
  · next houtside =>
    rw [outside_length_iff.1 houtside, stackAfter_closer, unclosed, List.reverse_reverse]
  · next hinside =>
    obtain ⟨q, hquote⟩ := Option.ne_none_iff_exists'.1 (mt outside_length_iff.2 hinside)
    rw [hquote]
    rfl

/-- The latest open bracket of a kind, which is the one that is closed. -/
theorem exists_latest {place : Nat} (h : (place, b) ∈ unclosed line) :
    ∃ outer place inner, unclosed line = outer ++ (place, b) :: inner ∧
      (∀ entry ∈ inner, entry.2 ≠ b) ∧
      (closeLatest b (unclosed line).reverse).reverse = outer ++ inner := by
  obtain ⟨entry, inner, outer, hinner, hentry, hstack, herased⟩ :=
    List.exists_of_eraseP (p := fun entry : Nat × Bracket => entry.2 = b) (List.mem_reverse.2 h)
      (decide_eq_true rfl)
  obtain ⟨place, b'⟩ := entry
  obtain rfl : b' = b := of_decide_eq_true hentry
  refine ⟨outer.reverse, place, inner.reverse, ?_, fun entry hentry => ?_, ?_⟩
  · rw [← List.reverse_reverse (unclosed line), hstack]
    simp
  · simpa using hinner entry (List.mem_reverse.1 hentry)
  · rw [closeLatest, herased, List.reverse_append]

/-- There is no call in a line that leaves no parenthesis open. -/
theorem openCall_eq_none_iff :
    openCall line = none ↔ ∀ place, (place, round) ∉ unclosed line := by
  rw [openCall, openParenthesis?, Option.map_eq_none_iff, Option.map_eq_none_iff,
    List.getLast?_eq_none_iff, List.filter_eq_nil_iff]
  constructor
  · intro h place hopen
    exact h _ hopen (decide_eq_true rfl)
  · rintro h ⟨place, b⟩ hopen hround
    obtain rfl : b = round := of_decide_eq_true hround
    exact h place hopen

/-- A call in progress has its parenthesis open. -/
theorem exists_mem_unclosed_of_openCall {call : Text × Text} (h : openCall line = some call) :
    ∃ place, (place, round) ∈ unclosed line := by
  by_contra hnone
  rw [not_exists] at hnone
  rw [openCall_eq_none_iff.2 hnone] at h
  cases h

end Bracket

namespace Dialect

/-- The rule about calls in progress recognises nothing else. -/
theorem exists_openCall_of_mem_closeCall {dialect : Dialect} {skip : List Text} {line : Text}
    {hit : Text × Score} (h : hit ∈ dialect.closeCall skip line) :
    ∃ call, Bracket.openCall line = some call := by
  unfold closeCall at h
  split at h
  · cases h
  · next call hcall => exact ⟨_, hcall⟩

end Dialect

namespace Cascade

/-- The rule about calls in progress is the only one that names a closing parenthesis. -/
theorem name_of_closer_mem_labels :
    ∀ entry ∈ builtIn, ∀ name ∈ entry.2.order,
      ")".toList ∈ entry.2.labels name → name = .iterableCall := by
  decide +kernel

/-- **A closing parenthesis is only suggested for a call in progress.** -/
theorem openCall_of_score_pos {key line : Text} (h : 0 < (forKey key).score line ")") :
    ∃ call, Bracket.openCall line = some call := by
  obtain ⟨language, dialect, name, hbuiltIn, hname, hhit, hlisted⟩ :=
    exists_rule_of_score_ne_zero (score_ne_zero_of_pos h)
  obtain rfl := name_of_closer_mem_labels _ hbuiltIn name hname hlisted
  obtain ⟨rule, hform, hhit⟩ := Dialect.exists_ruleForm_of_mem hhit
  cases hform with
  | plain => cases hhit
  | iterableCall => exact Dialect.exists_openCall_of_mem_closeCall hhit

/-- **When accepting a suggested closing parenthesis closes the call.** Where one is suggested, in
any language, a parenthesis is open. With the suggested one at the end of the line the innermost
open parenthesis is closed, and nothing else changes, if the end of the line is outside of quotes.
In a quote that is still open nothing is closed. -/
theorem closing_parenthesis_closes_iff {key line : Text} (h : 0 < (forKey key).score line ")") :
    ∃ outer place inner, Bracket.unclosed line = outer ++ (place, .round) :: inner ∧
      (∀ entry ∈ inner, entry.2 ≠ .round) ∧
      (Bracket.Outside line line.length →
        Bracket.unclosed (line ++ ")".toList) = outer ++ inner) ∧
      (¬ Bracket.Outside line line.length →
        Bracket.unclosed (line ++ ")".toList) = Bracket.unclosed line) := by
  obtain ⟨call, hcall⟩ := openCall_of_score_pos h
  obtain ⟨place, hopen⟩ := Bracket.exists_mem_unclosed_of_openCall hcall
  obtain ⟨outer, place, inner, hunclosed, hinner, hclosed⟩ := Bracket.exists_latest hopen
  have happend := Bracket.unclosed_append_closer .round line
  refine ⟨outer, place, inner, hunclosed, hinner, fun houtside => ?_, fun hinside => ?_⟩
  · rw [if_pos houtside, hclosed] at happend
    exact happend
  · rw [if_neg hinside] at happend
    exact happend

/-- A parenthesis is closed over a square bracket that stays open. -/
theorem closing_parenthesis_closes_over_index :
    0 < (forKey Language.python.key).score "f(a[0" ")" ∧
      Bracket.Outside "f(a[0" ("f(a[0" : Text).length ∧
      ∃ outer place inner, Bracket.unclosed "f(a[0" = outer ++ (place, .round) :: inner ∧
        Bracket.unclosed ("f(a[0" ++ ")".toList) = outer ++ inner := by
  have hscore : 0 < (forKey Language.python.key).score "f(a[0" ")" := by decide +kernel
  have houtside : Bracket.Outside "f(a[0" ("f(a[0" : Text).length := by decide +kernel
  obtain ⟨outer, place, inner, hunclosed, -, hcloses, -⟩ := closing_parenthesis_closes_iff hscore
  exact ⟨hscore, houtside, outer, place, inner, hunclosed, hcloses houtside⟩

/-- In a string that is still open a closing parenthesis is suggested that closes nothing. -/
theorem suggested_parenthesis_in_string :
    0 < (forKey Language.python.key).score "print(\"hello" ")" ∧
      Bracket.unclosed "print(\"hello" = [(5, .round)] ∧
      Bracket.unclosed ("print(\"hello" ++ ")".toList) = [(5, .round)] := by
  decide +kernel

end Cascade

end CodeKeyboard
