import CodeKeyboard.Json.Display
import CodeKeyboard.Json.Reader
import CodeKeyboard.Language.Basic
import CodeKeyboard.Store
import CodeKeyboard.Warning

/-!
# Saved keyboards (specification §E6)

A keyboard that the user has changed is saved as one JSON text under a key of its language: a list
of tabs, each an object with a key, a label and a list of buttons. `encode` writes that text and
`decode` reads it. Loading does not fail on a text of another form: it is passed over with a
warning, and the keyboard that the language comes with is used. Only a text that is nested too
deeply cannot be loaded.
-/

namespace CodeKeyboard

/-- Why a text is no saved keyboard. -/
inductive DecodeError where
  /-- It is not JSON that can be read. -/
  | unreadable (cause : Json.ReadError)
  /-- It is no list. -/
  | noList
  /-- A tab is no object with a list of buttons. -/
  | badTab
  /-- A button is no object with three texts. -/
  | badButton
deriving DecidableEq, Repr

/-- What is said about a text that is no saved keyboard. -/
def DecodeError.message : DecodeError → Text
  | unreadable cause => cause.message
  | noList => "expected a list of tabs"
  | badTab => "tab entry must be an object with a 'data' list"
  | badButton => "button entry must have string id/label/text"

namespace Button

/-- A button as a JSON object. -/
def toJson (button : Button) : Json :=
  .object [("id", .text button.id), ("label", .text button.label), ("text", .text button.text)]

/-- The button that a JSON value is: an object whose id, label and text are texts. -/
def ofJson (value : Json) : Except DecodeError Button :=
  match (value.field? "id").bind Json.text?, (value.field? "label").bind Json.text?,
      (value.field? "text").bind Json.text? with
  | some id, some label, some text => .ok ⟨id, label, text⟩
  | _, _, _ => .error .badButton

@[simp] theorem ofJson_toJson (button : Button) : ofJson button.toJson = .ok button := rfl

end Button

namespace Tab

/-- A tab as a JSON object. -/
def toJson (tab : Tab) : Json :=
  .object
    [("key", .text tab.key), ("label", .text tab.label),
     ("data", .array (tab.buttons.map Button.toJson))]

/-- The text of an entry, whatever its value; nothing is the empty text. -/
def shownField (name : Text) (value : Json) : Text :=
  ((value.field? name).map Json.shown).getD []

/-- The tab that a JSON value is: an object with a list of buttons. -/
def ofJson (value : Json) : Except DecodeError Tab :=
  match (value.field? "data").bind Json.array? with
  | none => .error .badTab
  | some items =>
    (items.mapM Button.ofJson).map fun buttons =>
      ⟨shownField "key" value, shownField "label" value, buttons⟩

end Tab

namespace Keyboard

/-- The text in which a keyboard is saved. -/
def encode (keyboard : Keyboard) : Text :=
  (Json.array (keyboard.map Tab.toJson)).compact

/-- The keyboard that a JSON value is: a list of tabs. -/
def ofJson (value : Json) : Except DecodeError Keyboard :=
  match value with
  | .array items => items.mapM Tab.ofJson
  | _ => .error .noList

/-- The keyboard that is saved in a text. -/
def decode (saved : Text) : Except DecodeError Keyboard :=
  match Json.read saved with
  | .error cause => .error (.unreadable cause)
  | .ok value => ofJson value

/-- What begins the keys of saved keyboards. -/
def usualKeyStart : Text := "customKeyboardTabs"

/-- The key under which the keyboard of a language is saved. -/
def keyFor (start : Text) (language : Language) : Text :=
  start ++ ':' :: language.key

/-- Whether a keyboard is saved for the language. -/
def isCustomized (store : Store) (start : Text) (language : Language) : Except StoreError Bool :=
  (store.get? (keyFor start language)).map Option.isSome

/-- The saved keyboard of a language, or the one it comes with. -/
def load (store : Store) (start : Text) (language : Language) :
    Except StoreError (Keyboard × List Warning) := do
  match ← store.get? (keyFor start language) with
  | none => return (language.keyboard, [])
  | some text =>
    match decode text with
    | .ok keyboard => return (keyboard, [])
    | .error (.unreadable .tooDeep) => .error .tooDeep
    | .error _ => return (language.keyboard, [.keyboardMisshapen])

/-- The store with the keyboard of a language saved in it. -/
def save (store : Store) (start : Text) (language : Language) (keyboard : Keyboard) :
    Except StoreError Store :=
  store.put (keyFor start language) keyboard.encode

/-- The store without a saved keyboard of the language. -/
def reset (store : Store) (start : Text) (language : Language) : Except StoreError Store :=
  store.erase (keyFor start language)

end Keyboard

end CodeKeyboard
