import CodeKeyboard.Engine
import CodeKeyboard.Keyboard.Edit

/-!
# Sessions

A session is what someone does with an engine step by step: shutting it down and starting it again,
reading and writing its store, filling in placeholders, editing a draft of a keyboard and saving it,
and asking for predictions. `Session.step` says for each step what comes of it and what the session
is afterwards; a step that fails changes nothing but what it did before it failed.
-/

namespace CodeKeyboard

/-- How a step names its language: by a key and by a file name, each of which may be empty. -/
structure LanguageChoice where
  key : Text
  fileName : Text

/-- One step of a session. -/
inductive Step where
  -- the engine and its store
  | shutdown
  /-- Shuts the engine down and starts a new one on its store. -/
  | restart
  /-- Starts a new engine on the store. -/
  | reopen
  /-- Makes a store in memory refuse some of the writes from now on. -/
  | refuse (put erase : Bool)
  | getRow (key : Text)
  | putRow (key value : Text)
  | eraseRow (key : Text)
  | listRows
  -- the history
  | loadHistory
  | record (kind value : Text)
  | values (kind : Text)
  | snapshot
  /-- Lists what may be filled in. -/
  | suggest (kind : Text) (language : LanguageChoice)
  -- the draft; a tab and a button of it are named by offsets
  /-- Takes the keyboard of a language as the draft. -/
  | loadDraft (language : LanguageChoice)
  | setDraft (keyboard : Keyboard)
  | showDraft
  | saveDraft (language : LanguageChoice)
  /-- Forgets the saved keyboard of a language. -/
  | resetKeyboard (language : LanguageChoice)
  | isCustomized (language : LanguageChoice)
  | addButton (tab : Int) (label text : Text)
  | editButton (tab button : Int) (label text : Text)
  | deleteButton (tab button : Int)
  | addTab (label : Text)
  | deleteTab (tab : Int)
  -- typing
  | pool (language : LanguageChoice)
  | findButton (id : Text) (language : LanguageChoice)
  | predict (text : Text) (cursor : Option Int) (limit : Int) (language : LanguageChoice)
  /-- Asks what a button inserts in a context. -/
  | expand (id : Text) (context : Context) (language : LanguageChoice)
  | classify (line : Text) (language : LanguageChoice)
  | highlight (text : Text) (language : LanguageChoice)

/-- Why a step fails. -/
inductive Failure where
  | store (cause : StoreError)
  | unsaved (languageKey : Text)
  | unreset (languageKey : Text)
  | edit (cause : EditError)
  | unknownKind (name : Text)
  | noSuchButton
  /-- What is to be inserted cannot be written out. -/
  | width (cause : Expansion.WidthError)

/-- What is said about a step that fails. -/
def Failure.message : Failure → Text
  | store cause => cause.message
  | unsaved key => "could not save keyboard settings for ".toList ++ key
  | unreset key => "could not reset keyboard settings for ".toList ++ key
  | edit cause => cause.message
  | unknownKind name => PlaceholderKind.unknownMessage name
  | noSuchButton => "no such button"
  | width cause => cause.message

/-- What comes of a step. -/
inductive Reply where
  | done
  | flag (b : Bool)
  | count (n : Nat)
  | maybeText (s : Option Text)
  | text (s : Text)
  | texts (ss : List Text)
  | recorded (changed : Bool) (values : List Text)
  | buckets (b : Buckets)
  /-- The tabs with the numbers of their buttons. -/
  | sizes (keyboard : Keyboard)
  | keyboard (k : Keyboard)
  /-- The tabs after an edit, and the one that was edited. -/
  | edited (keyboard : Keyboard) (tab : Option Tab)
  | maybeButton (b : Option Button)
  | predictions (ps : List Prediction)
  | tokens (ts : List Token)
  | lines (ls : List (List Token))

/-- The state of a session. -/
structure Session where
  engine : Engine
  /-- The keyboard that is being edited. -/
  draft : Keyboard
  /-- How many ids were made for new buttons and tabs. -/
  made : Nat
  /-- The key and the limit of a history other than the usual one. -/
  otherHistory : Option (Text × Int)

/-- What a step leads to: its outcome, what went wrong on the way, and the session after it. -/
structure Stepped where
  outcome : Except Failure Reply
  warnings : List Warning
  session : Session

namespace Session

/-- An engine on a store as a session starts it. -/
def startEngine (catalog : Catalog) (store : Store) (keyStart : Text)
    (otherHistory : Option (Text × Int)) : Except StoreError (Engine × List Warning) := do
  let (engine, warnings) ← Engine.start catalog store
  let engine := { engine with keyStart := keyStart }
  match otherHistory with
  | none => return (engine, warnings)
  | some (key, limit) =>
    let (engine, more) ← engine.withHistory key limit
    return (engine, warnings ++ more)

/-- The first session on a store. -/
def start (catalog : Catalog) (store : Store) (keyStart : Text)
    (otherHistory : Option (Text × Int)) : Except StoreError (Session × List Warning) :=
  (startEngine catalog store keyStart otherHistory).map fun (engine, warnings) =>
    (⟨engine, [], 0, otherHistory⟩, warnings)

/-- The id for the next new button or tab. -/
def nextId (session : Session) : Text :=
  "new".toList ++ Nat.toDigits 10 (session.made + 1)

/-- The language of a step. -/
def language (session : Session) (choice : LanguageChoice) : Language :=
  session.engine.catalog.resolve choice.key choice.fileName

/-- A step that went well and changed nothing. -/
def ok (session : Session) (reply : Reply) : Stepped := ⟨.ok reply, [], session⟩

/-- A step that failed and changed nothing. -/
def failed (session : Session) (failure : Failure) : Stepped := ⟨.error failure, [], session⟩

/-- A step that only reads the store. -/
def reading (session : Session) (result : Except StoreError (α × List Warning))
    (reply : α → Reply) : Stepped :=
  match result with
  | .ok (a, warnings) => ⟨.ok (reply a), warnings, session⟩
  | .error cause => session.failed (.store cause)

/-- A step that replaces the store. -/
def writing (session : Session) (result : Except StoreError Store) : Stepped :=
  match result with
  | .ok store => { session with engine := { session.engine with store := store } }.ok .done
  | .error cause => session.failed (.store cause)

/-- A step that starts a new engine on a store. -/
def starting (session : Session) (store : Store) : Stepped :=
  match startEngine session.engine.catalog store session.engine.keyStart session.otherHistory with
  | .ok (engine, warnings) => ⟨.ok .done, warnings, { session with engine := engine }⟩
  | .error cause => session.failed (.store cause)

/-- A step that edits the draft; `tab` is the offset of the tab to show afterwards. -/
def editing (session : Session) (result : Except EditError Keyboard) (tab : Int) (made : Nat) :
    Stepped :=
  match result with
  | .ok keyboard =>
    { session with draft := keyboard, made := session.made + made }.ok
      (.edited keyboard (Offset.get? keyboard tab))
  | .error cause => session.failed (.edit cause)

def refusing (session : Session) (put erase : Bool) : Session :=
  { session with
    engine := { session.engine with store := session.engine.store.refusing put erase } }

def loadingHistory (session : Session) : Stepped :=
  match session.engine.history.load session.engine.store with
  | .ok (history, warnings) =>
    ⟨.ok .done, warnings, { session with engine := { session.engine with history := history } }⟩
  | .error cause => session.failed (.store cause)

def recording (session : Session) (kind : PlaceholderKind) (value : Text) : Stepped :=
  let (changed, engine, warnings) := session.engine.record kind value
  ⟨.ok (.recorded changed (engine.history.values kind)), warnings,
    { session with engine := engine }⟩

/-- A step that takes the keyboard of a language as the draft. -/
def loading (session : Session) (language : Language) : Stepped :=
  match session.engine.keyboard language with
  | .ok (keyboard, warnings) =>
    ⟨.ok (.sizes keyboard), warnings, { session with draft := keyboard }⟩
  | .error cause => session.failed (.store cause)

def saving (session : Session) (language : Language) (keyboard : Keyboard) : Stepped :=
  match Keyboard.save session.engine.store session.engine.keyStart language keyboard with
  | .ok store => { session with engine := { session.engine with store := store } }.ok .done
  | .error _ => ⟨.error (.unsaved language.key), [.keyboardUnsaved], session⟩

def resetting (session : Session) (language : Language) : Stepped :=
  match Keyboard.reset session.engine.store session.engine.keyStart language with
  | .ok store => { session with engine := { session.engine with store := store } }.ok .done
  | .error _ => session.failed (.unreset language.key)

def asking (session : Session) (language : Language) : Stepped :=
  session.reading
    ((Keyboard.isCustomized session.engine.store session.engine.keyStart language).map (·, []))
    .flag

/-- A step about a kind of placeholder. -/
def withKind (session : Session) (name : Text) (f : PlaceholderKind → Stepped) : Stepped :=
  match PlaceholderKind.parse? name with
  | some kind => f kind
  | none => session.failed (.unknownKind name)

/-- What a step leads to. -/
def step (session : Session) (step : Step) : Stepped :=
  let engine := session.engine
  match step with
  | .shutdown => { session with engine := engine.shutdown }.ok .done
  | .restart =>
    let engine := engine.shutdown
    { session with engine := engine }.starting engine.store.reopen
  | .reopen => session.starting engine.store
  | .refuse put erase =>
    if engine.store.backend.isDatabase then session.ok .done
    else (session.refusing put erase).ok .done
  | .getRow key => session.reading ((engine.store.get? key).map (·, [])) .maybeText
  | .putRow key value => session.writing (engine.store.put key value)
  | .eraseRow key => session.writing (engine.store.erase key)
  | .listRows => session.reading (engine.store.keys.map (·, [])) .texts
  | .loadHistory => session.loadingHistory
  | .record name value => session.withKind name fun kind => session.recording kind value
  | .values name => session.withKind name fun kind =>
    session.ok (.texts (engine.history.values kind))
  | .snapshot => session.ok (.buckets engine.history.buckets)
  | .suggest name choice => session.withKind name fun kind =>
    session.ok (.texts (engine.history.suggestionsFor kind (session.language choice)))
  | .loadDraft choice => session.loading (session.language choice)
  | .setDraft keyboard => { session with draft := keyboard }.ok (.count keyboard.length)
  | .showDraft => session.ok (.keyboard session.draft)
  | .saveDraft choice => session.saving (session.language choice) session.draft
  | .resetKeyboard choice => session.resetting (session.language choice)
  | .isCustomized choice => session.asking (session.language choice)
  | .addButton tab label text =>
    session.editing (session.draft.addButton tab session.nextId label text) tab 1
  | .editButton tab button label text =>
    session.editing (session.draft.editButton tab button label text) tab 0
  | .deleteButton tab button => session.editing (session.draft.deleteButton tab button) tab 0
  | .addTab label => session.editing (session.draft.addTab session.nextId label) (-1) 1
  | .deleteTab tab =>
    match session.draft.deleteTab tab with
    | .ok keyboard =>
      { session with draft := keyboard }.ok (.texts (keyboard.map Tab.key))
    | .error cause => session.failed (.edit cause)
  | .pool choice =>
    session.reading (engine.pool (session.language choice)) fun pool =>
      .texts (pool.map Button.id)
  | .findButton id choice =>
    session.reading (engine.findButton (session.language choice) id) .maybeButton
  | .predict text cursor limit choice =>
    session.reading (engine.predict (session.language choice) text cursor limit) .predictions
  | .expand id context choice =>
    let language := session.language choice
    match engine.findButton language id with
    | .ok (some button, warnings) =>
      match Expansion.expand language button context with
      | .ok text => ⟨.ok (.text text), warnings, session⟩
      | .error cause => ⟨.error (.width cause), warnings, session⟩
    | .ok (none, warnings) => ⟨.error .noSuchButton, warnings, session⟩
    | .error cause => session.failed (.store cause)
  | .classify line choice =>
    session.ok (.tokens (Token.classify (session.language choice).lexicon line))
  | .highlight text choice =>
    session.ok (.lines (Token.classifyLines (session.language choice).lexicon text))

/-- What the steps lead to one after the other. -/
def run (session : Session) : List Step → List Stepped
  | [] => []
  | first :: rest =>
    let stepped := session.step first
    stepped :: stepped.session.run rest

end Session

end CodeKeyboard
