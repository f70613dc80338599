import CodeKeyboard.Context
import CodeKeyboard.Idiom.Scorer
import CodeKeyboard.Operator
import CodeKeyboard.Text.CaseFold

/-!
# Ranking buttons (specification §4.3)

A button is scored by the first of three rules that gives it anything:

- what plausibly follows the pending operator, or else the last word, by its place in the list of
  followers;
- what the idioms of the language suggest for the line;
- on a blank line, how likely its label starts a line.

`rank` keeps the buttons that score, the best first, equal ones in the order of the pool.
-/

namespace CodeKeyboard

/-- Which rule scored a button. -/
inductive Reason where
  | contextual
  | idiom
  | newLine
deriving DecidableEq, Repr

/-- The name of a reason. -/
def Reason.name : Reason → Text
  | contextual => "contextual"
  | idiom => "idiom"
  | newLine => "newline"

/-- A button with its score. -/
structure Prediction where
  button : Button
  score : Score
  reason : Reason
deriving DecidableEq, Repr

namespace Prediction

/-- How many predictions are shown when nobody says how many. -/
def usualLimit : Int := 6

/-! ## Followers -/

/-- The followers of a word: of the word as it is, else of its case folding, which is all that §4.3
asks for, else, for a dotted name, of its last part with the dot. -/
def followersOf (language : Language) (word : Text) : List Text :=
  if word.isEmpty then []
  else
    match language.followers.lookup word with
    | some (label :: labels) => label :: labels
    | _ =>
      match language.followers.lookup (Text.foldCase word) with
      | some labels => labels
      | none =>
        if '.' ∈ word then (language.followers.lookup ('.' :: Text.afterLast '.' word)).getD []
        else []

/-- The followers of an operator: its own, or else those of the plain assignment. -/
def followersOfOperator (language : Language) (op : Text) : List Text :=
  match language.followers.lookup op with
  | some (label :: labels) => label :: labels
  | _ => (language.followers.lookup ("=" : Text)).getD []

/-- The word that stands for a variable in a snippet. -/
def variableWord : Text := "var"

open Pattern in
/-- A word character and a parenthesis, with no closing parenthesis after it. -/
def openCallEnd : Pattern :=
  chain [anything, one .word, text "(", many (one (.outside (.single ')')))]

/-- The labels that plausibly follow at the cursor, the likeliest first. The place of a variable in
an open call says nothing about what follows. -/
def followers (language : Language) (context : Context) : List Text :=
  match Operator.pending? context.line with
  | some op => followersOfOperator language op
  | none =>
    if context.lastWord = variableWord && openCallEnd.accepts context.line then []
    else followersOf language context.lastWord

/-- The first place of a label in a list, differences of case disregarded. -/
def placeOf? (labels : List Text) (label : Text) : Option Nat :=
  labels.findIdx? fun entry => Text.foldCase entry == Text.foldCase label

/-- The score of a label by its place in a list of followers. -/
def placeScore (labels : List Text) (label : Text) : Score :=
  match placeOf? labels label with
  | some place => Score.ofPlace place
  | none => 0

/-! ## The three rules -/

/-- The score of a label as a follower. -/
def followerScore (language : Language) (context : Context) (label : Text) : Score :=
  placeScore (followers language context) label

/-- The score of a label by the idioms of the language. -/
def idiomScore (language : Language) (context : Context) (label : Text) : Score :=
  (Cascade.forKey language.key).score context.line label

/-- The score of a label as the start of a line. -/
def starterScore (language : Language) (context : Context) (label : Text) : Score :=
  if context.onBlankLine then (language.starters.lookup label).getD 0 else 0

/-- The first of three scores that is worth something, with its reason. -/
def firstWorth (follower idiom starter : Score) : Score × Option Reason :=
  if 0 < follower then (follower, some .contextual)
  else if 0 < idiom then (idiom, some .idiom)
  else if 0 < starter then (starter, some .newLine)
  else (0, none)

/-- The score of a label in a context, with the rule that gave it, where `idiom` scores labels by
the idioms for the line. -/
def scoreBy (idiom : Text → Score) (language : Language) (context : Context) (label : Text) :
    Score × Option Reason :=
  firstWorth (followerScore language context label) (idiom label)
    (starterScore language context label)

/-- The score of a label in a context, with the rule that gave it. -/
def scoreOf (language : Language) (context : Context) (label : Text) : Score × Option Reason :=
  scoreBy (idiomScore language context) language context label

/-- A scored button, if it scored. -/
def ofScored? (button : Button) : Score × Option Reason → Option Prediction
  | (score, some reason) => some ⟨button, score, reason⟩
  | (_, none) => none

/-- The buttons that score in a context, in their order. The list of followers is found once for all
of them. -/
def scoredBy (idiom : Text → Score) (language : Language) (context : Context)
    (pool : List Button) : List Prediction :=
  let labels := followers language context
  pool.filterMap fun button =>
    ofScored? button <| firstWorth (placeScore labels button.label) (idiom button.label)
      (starterScore language context button.label)

/-- The best `limit` buttons of a pool in a context, the best first and equal ones in their order,
where `idiom` scores labels by the idioms for the line. -/
def rankBy (idiom : Text → Score) (language : Language) (context : Context) (pool : List Button)
    (limit : Int) : List Prediction :=
  ((scoredBy idiom language context pool).mergeSort fun p q =>
    decide (q.score ≤ p.score)).take limit.toNat

/-- The buttons that score in a context by the idioms of the language, in their order. -/
def scored (language : Language) (context : Context) (pool : List Button) : List Prediction :=
  let hits := (Cascade.forKey language.key).suggestions context.line
  scoredBy hits.confidence language context pool

/-- The best `limit` buttons of a pool in a context. The suggestions for the line are found once for
all of them. -/
def rank (language : Language) (context : Context) (pool : List Button) (limit : Int) :
    List Prediction :=
  let hits := (Cascade.forKey language.key).suggestions context.line
  rankBy hits.confidence language context pool limit

theorem scoredBy_eq_filterMap (idiom : Text → Score) (language : Language) (context : Context)
    (pool : List Button) :
    scoredBy idiom language context pool =
      pool.filterMap fun button => ofScored? button (scoreBy idiom language context button.label) :=
  rfl

/-- The idioms of the language score labels for `rank`. -/
theorem rank_eq_rankBy (language : Language) (context : Context) (pool : List Button)
    (limit : Int) :
    rank language context pool limit =
      rankBy (idiomScore language context) language context pool limit :=
  rfl

end Prediction

end CodeKeyboard
