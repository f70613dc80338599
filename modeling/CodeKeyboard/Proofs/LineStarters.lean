import CodeKeyboard.Proofs.IdiomIndentation

/-!
# Line starters stand on blank lines only (specification §8)

How likely a label starts a line counts on a blank line and nowhere else, and there nothing else
counts. On the empty line no operator waits, no word stands before the cursor, and no rule of any
dialect recognises anything; and what ignores the indentation sees no difference between a line of
blanks and the empty line.

- `Cascade.suggestions_of_allBlank`: no rule of any language recognises anything on a blank line.
- `Prediction.followers_of_allBlank`: and nothing follows there.
- `Prediction.starters_on_blank_lines`: so the starters are ranked on blank lines and on no others.
-/

namespace CodeKeyboard

open Text

namespace Cascade

theorem suggestions_nil_of_mem_builtIn :
    ∀ entry ∈ builtIn, (entry.2.cascade entry.1).suggestions [] = [] := by
  decide +kernel

/-- No rule of any language recognises anything on a blank line. -/
theorem suggestions_of_allBlank (key : Text) {line : Text} (h : line.allBlank = true) :
    (forKey key).suggestions line = [] := by
  rw [(suggestions_ignoresIndent key).of_allBlank h]
  unfold forKey
  split
  · next language dialect hfound =>
    exact suggestions_nil_of_mem_builtIn _ (List.mem_of_find?_eq_some hfound)
  · rfl

end Cascade

namespace Prediction

/-- How likely a label starts a line; a label that is not listed does not. -/
def starterWeight (language : Language) (label : Text) : Score :=
  (language.starters.lookup label).getD 0

/-- The buttons of a pool that are likely to start a line, each with its weight. -/
def starting (language : Language) (pool : List Button) : List Prediction :=
  (pool.filter fun button => 0 < starterWeight language button.label).map fun button =>
    ⟨button, starterWeight language button.label, .newLine⟩

variable {language : Language} {text : Text} {cursor : Int}

/-- Nothing follows the cursor on a blank line: no operator waits and no word stands before it. -/
theorem followers_of_allBlank (h : (Context.extract text cursor).line.allBlank = true) :
    followers language (Context.extract text cursor) = [] := by
  have hoperator : Operator.pending? (Context.extract text cursor).line = none :=
    Operator.pending?_ignoresIndent.of_allBlank h
  have hword : followersOf language [] = [] := rfl
  rw [followers, hoperator, Context.lastWord_of_allBlank h]
  dsimp only
  split
  · rfl
  · exact hword

/-- Where nothing else scores a button, its weight as a starter does. -/
theorem ofScored?_firstWorth_starter (button : Button) (weight : Score) :
    ofScored? button (firstWorth 0 0 weight) =
      if 0 < weight then some ⟨button, weight, .newLine⟩ else none := by
  have hnothing : ¬ (0 : Score) < 0 := Rat.lt_irrefl
  rw [firstWorth, if_neg hnothing, if_neg hnothing]
  split
  · rfl
  · rfl

/-- A button is not scored as a starter when it has no weight. -/
theorem reason_ne_newLine_of_starter_zero {button : Button} {follower idiom : Score}
    {p : Prediction} (h : ofScored? button (firstWorth follower idiom 0) = some p) :
    p.reason ≠ .newLine := by
  have hnothing : ¬ (0 : Score) < 0 := Rat.lt_irrefl
  rw [firstWorth, if_neg hnothing] at h
  by_cases hfollower : 0 < follower
  · rw [if_pos hfollower] at h
    cases h
    exact Reason.noConfusion
  rw [if_neg hfollower] at h
  by_cases hidiom : 0 < idiom
  · rw [if_pos hidiom] at h
    cases h
    exact Reason.noConfusion
  · rw [if_neg hidiom] at h
    cases h

/-- On a blank line the starters are what scores. -/
theorem scored_of_allBlank (h : (Context.extract text cursor).line.allBlank = true)
    (pool : List Button) :
    scored language (Context.extract text cursor) pool = starting language pool := by
  have hblank : (Context.extract text cursor).onBlankLine = true := h
  have hplace : ∀ label, placeScore [] label = 0 := fun label => rfl
  have hidiom : ∀ label, Suggestions.confidence [] label = 0 := fun label => rfl
  rw [starting, ← List.filterMap_eq_filter, List.map_filterMap, scored]
  simp only [scoredBy, followers_of_allBlank h, Cascade.suggestions_of_allBlank _ h]
  refine List.filterMap_congr fun button _ => ?_
  rw [hplace, hidiom, starterScore, if_pos hblank, ← starterWeight, ofScored?_firstWorth_starter,
    Option.guard]
  by_cases hweight : 0 < starterWeight language button.label
  · rw [if_pos hweight, if_pos (decide_eq_true hweight), Option.map_some]
  · rw [if_neg hweight, if_neg (by simpa using hweight), Option.map_none]

/-- **Line starters are ranked on blank lines and on no others.** On a blank line, wherever the
cursor is, what is shown are the first ones of the pool's buttons with a weight as starters, each
with that weight, the heaviest first and equal ones in the order of the pool. On any other line no
button is shown as a starter. -/
theorem starters_on_blank_lines (language : Language) (text : Text) (cursor : Int)
    (pool : List Button) (limit : Int) :
    ((Context.extract text cursor).line.allBlank = true →
        ∃ ordered, Ordered (starting language pool) ordered ∧
          rank language (Context.extract text cursor) pool limit = ordered.take limit.toNat) ∧
      ((Context.extract text cursor).line.allBlank = false →
        ∀ p ∈ rank language (Context.extract text cursor) pool limit, p.reason ≠ .newLine) := by
  constructor
  · intro hblank
    rw [← scored_of_allBlank hblank]
    exact exists_ordered language (Context.extract text cursor) pool limit
  · intro hvisible p hp
    have hnotBlank : ¬ (Context.extract text cursor).onBlankLine = true := by
      show ¬ (Context.extract text cursor).line.allBlank = true
      rw [hvisible]
      exact Bool.false_ne_true
    obtain ⟨button, -, hbutton⟩ := List.mem_filterMap.1 (mem_scored_of_mem_rank hp)
    rw [starterScore, if_neg hnotBlank] at hbutton
    exact reason_ne_newLine_of_starter_zero hbutton

/-- Between two lines of code, on one of blanks, the starters of Go are ranked, and after the
beginning of a loop none of them. -/
theorem starters_between_lines :
    (∃ ordered, Ordered (starting Language.go Language.go.keyboard.pool) ordered ∧
        rank .go (Context.extract "x := 1\n \t\ny := 2".toList 8) Language.go.keyboard.pool 6 =
          ordered.take 6) ∧
      ∀ p ∈ rank .go (Context.extract "for ".toList 4) Language.go.keyboard.pool 6,
        p.reason ≠ .newLine :=
  ⟨(starters_on_blank_lines _ "x := 1\n \t\ny := 2".toList 8 _ 6).1 (by decide),
    (starters_on_blank_lines _ "for ".toList 4 _ 6).2 (by decide)⟩

end Prediction

end CodeKeyboard
