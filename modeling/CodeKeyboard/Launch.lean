import CodeKeyboard.Engine

/-!
# Launching an engine (specification §E3)

A program makes an engine on the store that an address names, and tells in its log what it does. The
address of a database file stands for a file without rows.
-/

namespace CodeKeyboard

/-- What a program tells in its log. -/
inductive Event where
  | storeOpening (address : Text)
  | databaseOpening (path : Text)
  /-- The engine is ready, with so many languages. -/
  | engineReady (languages : Nat)
  | engineStopped
deriving DecidableEq, Repr

/-- The line of the log about an event. -/
def Event.line : Event → Text
  | storeOpening address =>
    "INFO:smartkeys.engine:Initializing key-value store: ".toList ++ address
  | databaseOpening path =>
    "INFO:smartkeys.DB.api:Opening SQLite key-value store at ".toList ++ path
  | engineReady languages =>
    "INFO:smartkeys.engine:Engine ready: ".toList ++ Nat.toDigits 10 languages ++
      " languages".toList
  | engineStopped => "INFO:smartkeys.engine:Engine shutdown complete"

/-- The log of some events; it is kept only when it is asked for. -/
def Event.log (wanted : Bool) (events : List Event) : Text :=
  if wanted then events.flatMap fun event => event.line ++ ['\n'] else []

/-- Why a program cannot do its work. -/
inductive LaunchError where
  | unsupportedAddress (address : Text)
  | store (cause : StoreError)
  /-- A query has no text. -/
  | noText
  /-- It is not said how many predictions to show. -/
  | noLimit
deriving DecidableEq, Repr

/-- What is said when a program cannot do its work. -/
def LaunchError.message : LaunchError → Text
  | unsupportedAddress address => Backend.unsupportedMessage address
  | store cause => cause.message
  | noText => "no text to answer"
  | noLimit => "no number of predictions"

namespace Engine

/-- The address of the store when none is given. -/
def usualAddress : Text := Backend.memoryScheme

/-- An engine on the store at an address, with what is told about it. The empty address stands for
the usual one. -/
def launch (address : Text) : Except LaunchError (Engine × List Event) :=
  let address := if address.isEmpty then usualAddress else address
  match Backend.ofAddress? address with
  | none => .error (.unsupportedAddress address)
  | some found =>
    match Engine.start .builtIn (.opened found.backend []) with
    | .error cause => .error (.store cause)
    | .ok (engine, _) =>
      .ok (engine, .storeOpening address ::
        (if found.backend.isDatabase then [.databaseOpening found.path] else []) ++
          [.engineReady engine.catalog.languages.length])

end Engine

end CodeKeyboard
