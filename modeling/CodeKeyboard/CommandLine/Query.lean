import CodeKeyboard.CommandLine.Arguments
import CodeKeyboard.Json.Printer
import CodeKeyboard.Launch
import CodeKeyboard.Report

/-!
# The command line (specification §E2)

`Query.program` answers queries in a terminal: it shows what the keyboard predicts at the end of a
text, or the tokens of the text. The text comes from an option, or line by line from a conversation
that an empty line or the end of the input ends.

What the program does with its arguments is a `Plan`: the texts to write before and after the
conversation, and how it answers a line. `run` carries out a plan on an input that is known in
advance.
-/

namespace CodeKeyboard.CommandLine

namespace Query

/-- The settings of the program. -/
structure Settings where
  languageKey : Text
  fileName : Text
  address : Text
  /-- How many predictions are shown; nothing when the switch for it was used with no value. -/
  limit : Option Int
  /-- The text before the cursor, if there is a query; nothing in it when its switch was used with
  no value. -/
  query : Option (Option Text)
  /-- Whether tokens are shown in place of predictions. -/
  showsTokens : Bool
  converses : Bool
  inJson : Bool
  verbose : Bool
deriving DecidableEq, Repr

/-- The settings without any arguments. -/
def Settings.usual : Settings :=
  ⟨[], [], [], Prediction.usualLimit, none, false, false, false, false⟩

/-- The program and its options. -/
def program : Program Settings where
  name := "smartkeys"
  about := "SmartKeys CLI (Engine-backed)"
  options :=
    [⟨["--lang"], .text "LANG" fun s settings => { settings with languageKey := s.getD [] },
        "Language key (python, cpp, go, ...)"⟩,
      ⟨["--file"], .text "FILE" fun s settings => { settings with fileName := s.getD [] },
        "Infer the language from this file name"⟩,
      ⟨["--db"], .text "DB" fun s settings => { settings with address := s.getD [] },
        "Store DSN: sqlite:///path or memory://"⟩,
      ⟨["-k"], .number "K" fun n settings => { settings with limit := n },
        "Top-K predictions"⟩,
      ⟨["--q"], .text "Q" fun s settings => { settings with query := some s },
        "Text before the cursor; use \\n for new lines"⟩,
      ⟨["--highlight"], .flag fun settings => { settings with showsTokens := true },
        "Print token classes instead of predictions"⟩,
      ⟨["--repl"], .flag fun settings => { settings with converses := true },
        "Interactive loop"⟩,
      ⟨["--json"], .flag fun settings => { settings with inJson := true },
        "Emit JSON rows"⟩,
      ⟨["--verbose"], .flag fun settings => { settings with verbose := true }, []⟩]

/-- A text in which a backslash and the letter `n` stand for a newline. -/
def unescaped : Text → Text
  | '\\' :: 'n' :: s => '\n' :: unescaped s
  | c :: s => c :: unescaped s
  | [] => []

/-- The lines that show what a text leads to. -/
def linesFor (settings : Settings) (engine : Engine) (language : Language) (text : Text) :
    Except LaunchError (List Text) :=
  if settings.showsTokens then
    let lines := Token.classifyLines language.lexicon text
    .ok (if settings.inJson then [(Report.ofLines lines).indented 0]
      else lines.map Report.taggedLine)
  else
    match settings.limit with
    | none => .error .noLimit
    | some limit =>
      match engine.predict language text none limit with
      | .error cause => .error (.store cause)
      | .ok (ps, _) =>
        .ok (if settings.inJson then [(Report.ofPredictions ps).indented 0]
          else Report.table language (Context.atEnd text) ps)

/-- What is written about a text. -/
def answer (settings : Settings) (engine : Engine) (language : Language) (text : Text) :
    Except LaunchError Text :=
  (linesFor settings engine language text).map (·.flatMap (· ++ ['\n']))

/-! ## Plans -/

/-- A conversation: how it begins, and how a line is answered. -/
structure Conversation where
  opening : Text
  /-- What is written about a line. -/
  reply : Text → Except LaunchError Text

/-- What is written before each line of a conversation is read. -/
def prompt : Text := "> "

/-- What the program is going to do. -/
structure Plan where
  output : Text
  /-- The conversation after that, if there is one. -/
  conversation : Option Conversation
  errors : Text
  code : Nat

/-- The plan of a program that only writes something. -/
def Plan.say (code : Nat) (output errors : Text) : Plan :=
  ⟨output, none, errors, code⟩

/-- How a conversation with an engine goes. -/
def conversation (settings : Settings) (engine : Engine) (language : Language) : Conversation where
  opening :=
    '[' :: language.name ++ "] Type a line (trailing spaces count; empty line to exit).\n".toList
  reply := answer settings engine language

/-- The plan for given settings. -/
def planFor (settings : Settings) : Except LaunchError Plan := do
  let (engine, events) ← Engine.launch settings.address
  let language := engine.catalog.resolve settings.languageKey settings.fileName
  let output ← match settings.query with
    | some (some query) => answer settings engine language (unescaped query)
    | some none => .error .noText
    | none => .ok []
  let idle := settings.query.isNone && !settings.converses
  return {
    output := output
    conversation :=
      if settings.converses then some (conversation settings engine language) else none
    errors := Event.log settings.verbose events ++ (if idle then program.usage else []) ++
      Event.log settings.verbose [.engineStopped]
    code := 0 }

/-- The plan for given arguments. -/
def plan (arguments : List Text) : Except LaunchError Plan :=
  match program.parse Settings.usual arguments with
  | .help => .ok (.say 0 program.help [])
  | .refused cause => .ok (.say 2 [] (program.complaint cause))
  | .run settings => planFor settings

/-- What a conversation writes when these lines are all that can be read. -/
def Conversation.transcript (conversation : Conversation) :
    List Text → Except LaunchError Text
  | [] => .ok prompt
  | line :: rest =>
    if line.isEmpty then .ok prompt
    else do
      let reply ← conversation.reply line
      let further ← conversation.transcript rest
      return prompt ++ reply ++ further

/-- What the program leaves behind, given its arguments and its input. The empty text after the last
newline ends a conversation as the end of the input does. -/
def run (arguments : List Text) (input : Text) : Except LaunchError Finished := do
  let plan ← plan arguments
  let talk ← match plan.conversation with
    | none => .ok []
    | some conversation =>
      (conversation.transcript (Text.lines input)).map (conversation.opening ++ ·)
  return ⟨plan.code, plan.output ++ talk, plan.errors⟩

end Query

end CodeKeyboard.CommandLine
