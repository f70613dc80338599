import CodeKeyboard.Expansion
import CodeKeyboard.History
import CodeKeyboard.Keyboard.Saved
import CodeKeyboard.Prediction
import CodeKeyboard.Token

/-!
# The engine (specification §E7)

An `Engine` joins a catalog of languages, a store, the history of fill values, and the place of
saved keyboards in the store. Predicting goes from a text and a cursor to the context, from the
language to its keyboard as saved, from there to the candidate pool, and ranks it. All of this only
reads the store.

The sections that are cited in the modules are those of the specification of the keyboard.
-/

namespace CodeKeyboard

/-- A running keyboard. -/
structure Engine where
  catalog : Catalog
  store : Store
  history : History
  /-- What begins the keys of saved keyboards. -/
  keyStart : Text
  /-- Whether it was not shut down yet. -/
  running : Bool

namespace Engine

/-- An engine on a store, with its history loaded. -/
def start (catalog : Catalog) (store : Store) : Except StoreError (Engine × List Warning) :=
  ((History.fresh History.usualKey History.usualLimit).load store).map fun (history, warnings) =>
    (⟨catalog, store, history, Keyboard.usualKeyStart, true⟩, warnings)

/-- The engine with another history, loaded from its store. -/
def withHistory (engine : Engine) (key : Text) (limit : Int) :
    Except StoreError (Engine × List Warning) :=
  ((History.fresh key limit).load engine.store).map fun (history, warnings) =>
    ({ engine with history := history }, warnings)

/-- The keyboard of a language as it is saved, or as it comes. -/
def keyboard (engine : Engine) (language : Language) :
    Except StoreError (Keyboard × List Warning) :=
  Keyboard.load engine.store engine.keyStart language

/-- The buttons of a language that are ranked. -/
def pool (engine : Engine) (language : Language) :
    Except StoreError (List Button × List Warning) :=
  (engine.keyboard language).map fun (keyboard, warnings) =>
    (Keyboard.pool (keyboard.filter fun tab => !tab.buttons.isEmpty), warnings)

/-- The best buttons in a context. -/
def predictIn (engine : Engine) (language : Language) (context : Context) (limit : Int) :
    Except StoreError (List Prediction × List Warning) :=
  (engine.pool language).map fun (pool, warnings) =>
    (Prediction.rank language context pool limit, warnings)

/-- The best buttons at a cursor in a text; no cursor stands for the end of the text. -/
def predict (engine : Engine) (language : Language) (text : Text) (cursor : Option Int)
    (limit : Int) : Except StoreError (List Prediction × List Warning) :=
  engine.predictIn language (Context.extract text (cursor.getD text.length)) limit

/-- The first button of a language's keyboard with the given id. -/
def findButton (engine : Engine) (language : Language) (id : Text) :
    Except StoreError (Option Button × List Warning) :=
  (engine.keyboard language).map fun (keyboard, warnings) =>
    (keyboard.buttons.find? (·.id == id), warnings)

/-- The engine after recording a value that was filled in. -/
def record (engine : Engine) (kind : PlaceholderKind) (value : Text) :
    Bool × Engine × List Warning :=
  let recorded := engine.history.record engine.store kind value
  (recorded.changed, { engine with history := recorded.history, store := recorded.store },
    recorded.warnings)

/-- The engine after shutting it down. Shutting it down again does nothing more. -/
def shutdown (engine : Engine) : Engine :=
  if engine.running then { engine with store := engine.store.close, running := false } else engine

end Engine

end CodeKeyboard
