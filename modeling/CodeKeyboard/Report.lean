import CodeKeyboard.Context
import CodeKeyboard.Json.Basic
import CodeKeyboard.Prediction
import CodeKeyboard.Token

/-!
# Results as they are shown

Predictions, tokens, contexts and placeholders leave the library as JSON, with scores rounded to
four places, or as lines of plain text for a terminal, with scores rounded to two.
-/

namespace CodeKeyboard

namespace Report

/-! ## As JSON -/

/-- An object with named values. -/
def object (entries : List (String × Json)) : Json :=
  .object (entries.map fun (name, value) => (name.toList, value))

/-- A prediction. -/
def ofPrediction (p : Prediction) : Json :=
  object [("id", .text p.button.id), ("label", .text p.button.label),
    ("text", .text p.button.text), ("score", .real p.score.rounded),
    ("reason", .text p.reason.name)]

/-- Predictions in their order. -/
def ofPredictions (ps : List Prediction) : Json :=
  .array (ps.map ofPrediction)

/-- A token. -/
def ofToken (token : Token) : Json :=
  object [("text", .text token.text), ("type", .text token.kind.name)]

/-- The tokens of a line. -/
def ofTokens (tokens : List Token) : Json :=
  .array (tokens.map ofToken)

/-- The tokens of some lines, line by line. -/
def ofLines (lines : List (List Token)) : Json :=
  .array (lines.map ofTokens)

/-- A context. -/
def ofContext (context : Context) : Json :=
  object [("last_word", .text context.lastWord), ("current_line", .text context.line),
    ("is_new_line", .bool context.onBlankLine), ("line_indentation", .int context.indentWidth)]

/-! ## As text -/

/-- A row of the table of predictions. -/
def row (place : Nat) (p : Prediction) : Text :=
  Text.padded 2 (Nat.toDigits 10 place) ++ ' ' :: Text.padded 6 p.score.twoPlaces ++
    ' ' :: Text.padded 11 p.reason.name ++ ' ' :: p.button.label

/-- The line above the table of predictions. -/
def heading (language : Language) (context : Context) : Text :=
  language.name ++ "  last_word=".toList ++ context.lastWord.quoted ++ "  new_line=".toList ++
    (if context.onBlankLine then "True" else "False").toList

/-- The lines that show predictions for a context. -/
def table (language : Language) (context : Context) (ps : List Prediction) : List Text :=
  if ps.isEmpty then ["(no predictions)"]
  else
    heading language context :: ("#  Score  Reason      Label" : Text) ::
      ps.mapIdx fun i p => row (i + 1) p

/-- A token with its class. -/
def tagged (token : Token) : Text :=
  '[' :: token.kind.name ++ ':' :: token.text ++ [']']

/-- The line that shows the tokens of a line; blank ones are left out. -/
def taggedLine (tokens : List Token) : Text :=
  List.intercalate [' '] ((tokens.filter fun token => !token.text.allBlank).map tagged)

end Report

end CodeKeyboard
