import CodeKeyboard.Prediction
import CodeKeyboard.Proofs.BracketMatching

/-!
# The variable in an open call (specification §4.3)

What follows a variable is not predicted while a call is open: the arguments of the call are written
then. Whether one is open is told here by the end of the line alone, a word character and its
parenthesis with no closing parenthesis after them, and not by matching the brackets. The two agree
where nothing is closed after the parenthesis. A call that is closed in the arguments hides the open
one around it, and so does any closing parenthesis in a quote.

- `Prediction.accepts_openCallEnd_iff`: what the pattern looks for.
- `Prediction.placeScore_eq_zero_iff`: no label scores just if nothing follows.
- `Prediction.no_follower_in_open_call_iff`: when nothing follows a variable in an open call.
-/

namespace CodeKeyboard

namespace Prediction

open Text Pattern

/-- Some call of the line, a parenthesis right after a word character, has no closing parenthesis
anywhere after its own. -/
def CallAtEnd (line : Text) : Prop :=
  ∃ before c rest, line = before ++ c :: '(' :: rest ∧ isWord c = true ∧ ')' ∉ rest

/-- **What the pattern looks for.** -/
theorem accepts_openCallEnd_iff {line : Text} :
    openCallEnd.accepts line = true ↔ CallAtEnd line := by
  simp only [accepts_iff, openCallEnd, matches_chain_cons, matches_chain_nil, matches_anything,
    matches_text, matches_one, matches_many_one, true_and, CharClass.contains_word,
    CharClass.contains_outside, CharClass.contains_single, Bool.not_eq_true', beq_eq_false_iff_ne]
  constructor
  · rintro ⟨before, _, ⟨_, _, ⟨c, hc, rfl⟩, ⟨_, _, rfl, ⟨rest, _, hrest, rfl, rfl⟩, rfl⟩, rfl⟩, rfl⟩
    refine ⟨before, c, rest, by simp, hc, fun hclose => hrest ')' hclose rfl⟩
  · rintro ⟨before, c, rest, rfl, hc, hrest⟩
    have hopen : ∀ d ∈ rest, d ≠ ')' := by
      rintro d hd rfl
      exact hrest hd
    exact ⟨before, _, ⟨[c], _, ⟨c, hc, rfl⟩,
      ⟨"(", _, rfl, ⟨rest, [], hopen, rfl, rfl⟩, rfl⟩, rfl⟩, by simp⟩

/-- An open call with no closing parenthesis after its own is one. -/
theorem callAtEnd_of_unclosed {text : Text} {place : Nat} {c : Char}
    (hopen : (place + 1, Bracket.round) ∈ Bracket.unclosed text) (hc : text[place]? = some c)
    (hword : isWord c = true) (hrest : ')' ∉ text.drop (place + 2)) : CallAtEnd text := by
  have hparenthesis : text[place + 1]? = some '(' := (Bracket.mem_unclosed_iff.1 hopen).opens.2
  refine ⟨text.take place, c, text.drop (place + 2), ?_, hword, hrest⟩
  calc text = text.take place ++ text.drop place := (List.take_append_drop place text).symm
    _ = text.take place ++ c :: text.drop (place + 1) := by
      rw [List.drop_eq_getElem?_toList_append, hc, Option.toList_some, List.singleton_append]
    _ = text.take place ++ c :: '(' :: text.drop (place + 2) := by
      rw [List.drop_eq_getElem?_toList_append, hparenthesis, Option.toList_some,
        List.singleton_append]

/-- **No label scores just if nothing follows**: the first follower always does. -/
theorem placeScore_eq_zero_iff {labels : List Text} :
    (∀ label, placeScore labels label = 0) ↔ labels = [] := by
  constructor
  · intro hzero
    cases labels with
    | nil => rfl
    | cons first labels =>
      have hfirst : placeScore (first :: labels) first = Score.ofPlace 0 := by
        simp [placeScore, placeOf?, List.findIdx?_cons]
      have hbest : Score.ofPlace 0 ≠ 0 := by decide +kernel
      exact absurd (hfirst.symm.trans (hzero first)) hbest
  · rintro rfl label
    rfl

/-- What follows a variable, where no operator waits for a value. -/
theorem followers_of_variable {context : Context} (language : Language)
    (hword : context.lastWord = variableWord) (hpending : Operator.pending? context.line = none) :
    followers language context =
      if openCallEnd.accepts context.line then [] else followersOf language variableWord := by
  simp [followers, hpending, hword]

/-- **When nothing follows a variable in an open call.** The cursor stands after the variable of a
snippet, no operator waits for a value, and an open parenthesis of the line, whatever calls are
closed after it, stands right after a word character. Then no button scores as a follower just if
some call of the line has no closing parenthesis after its own, or the language lists nothing after
a variable. So none scores where nothing is closed after the open parenthesis. -/
theorem no_follower_in_open_call_iff (language : Language) (text : Text) (cursor : Int)
    (hword : (Context.extract text cursor).lastWord = variableWord)
    (hpending : Operator.pending? (Context.extract text cursor).line = none)
    {place : Nat} {c : Char}
    (hopen : (place + 1, Bracket.round) ∈ Bracket.unclosed (Context.extract text cursor).line)
    (hc : (Context.extract text cursor).line[place]? = some c) (hcall : isWord c = true) :
    ((∀ label, followerScore language (Context.extract text cursor) label = 0) ↔
        CallAtEnd (Context.extract text cursor).line ∨ followersOf language variableWord = []) ∧
      (')' ∉ (Context.extract text cursor).line.drop (place + 2) →
        ∀ label, followerScore language (Context.extract text cursor) label = 0) := by
  have hexact : (∀ label, followerScore language (Context.extract text cursor) label = 0) ↔
      CallAtEnd (Context.extract text cursor).line ∨ followersOf language variableWord = [] := by
    simp only [followerScore, placeScore_eq_zero_iff, followers_of_variable language hword hpending,
      ← accepts_openCallEnd_iff]
    split
    · next hcallEnd => exact iff_of_true rfl (.inl hcallEnd)
    · next hcallEnd => exact ⟨.inr, fun h => h.resolve_left hcallEnd⟩
  exact ⟨hexact, fun hrest => hexact.2 (.inl (callAtEnd_of_unclosed hopen hc hcall hrest))⟩

/-- In the arguments of a call nothing follows the variable. -/
theorem no_follower_in_open_call_of_print :
    (Context.atEnd "print(x, var").lastWord = variableWord ∧
      Operator.pending? (Context.atEnd "print(x, var").line = none ∧
      (5, Bracket.round) ∈ Bracket.unclosed (Context.atEnd "print(x, var").line ∧
      followerScore .python (Context.atEnd "print(x, var") "in" = 0 := by
  have hword : (Context.atEnd "print(x, var").lastWord = variableWord := by decide
  have hpending : Operator.pending? (Context.atEnd "print(x, var").line = none := by decide
  have hopen : (5, Bracket.round) ∈ Bracket.unclosed (Context.atEnd "print(x, var").line := by
    decide
  have hc : (Context.atEnd "print(x, var").line[4]? = some 't' := by decide
  have hrest : ')' ∉ (Context.atEnd "print(x, var").line.drop 6 := by decide
  exact ⟨hword, hpending, hopen,
    (no_follower_in_open_call_iff .python _ _ hword hpending hopen hc (by decide)).2 hrest "in"⟩

/-- A call that is closed in the arguments hides the call around it. -/
theorem follower_after_closed_argument :
    (Context.atEnd "print(len(x), var").lastWord = variableWord ∧
      Operator.pending? (Context.atEnd "print(len(x), var").line = none ∧
      (5, Bracket.round) ∈ Bracket.unclosed (Context.atEnd "print(len(x), var").line ∧
      isWord 't' = true ∧ (Context.atEnd "print(len(x), var").line[4]? = some 't' ∧
      followerScore .python (Context.atEnd "print(len(x), var") "in" = 1 := by
  decide +kernel

end Prediction

end CodeKeyboard
