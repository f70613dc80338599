import CodeKeyboard.Text.Basic

/-!
# Programs and their options

A `Program` is described by its name, what it is about, and its switches; what a switch does to the
settings `σ` of the program is part of its description. The usage line and the help are read off the
description: the usage is filled into lines of at most 78 characters, and the help sets the
descriptions of the switches in a column.

What a program leaves behind is an exit code, what it wrote as output, and what it wrote about
errors.
-/

namespace CodeKeyboard.CommandLine

/-- What a program leaves behind. -/
structure Finished where
  code : Nat
  output : Text
  errors : Text
deriving DecidableEq, Repr

/-- What a switch does. One that takes something may also be used with no value. -/
inductive Effect (σ : Type) where
  | help
  | flag (set : σ → σ)
  /-- Takes a text; `place` stands for it in the usage. -/
  | text (place : Text) (set : Option Text → σ → σ)
  /-- Takes a whole number; `place` stands for it in the usage. -/
  | number (place : Text) (set : Option Int → σ → σ)

/-- What stands in the usage for the value that is taken. -/
def Effect.place? : Effect σ → Option Text
  | help => none
  | flag _ => none
  | text place _ => some place
  | number place _ => some place

/-- An option of a program. A short name is a hyphen and one character, a long name begins with two
hyphens. -/
structure Switch (σ : Type) where
  /-- The names, the first of which the usage shows. -/
  names : List Text
  effect : Effect σ
  about : Text

namespace Switch

/-- Whether the switch takes a value. -/
def takesValue (switch : Switch σ) : Bool :=
  switch.effect.place?.isSome

/-- The names of the switch, as messages show them. -/
def label (switch : Switch σ) : Text :=
  List.intercalate ['/'] switch.names

/-- A name of the switch with what follows it. -/
def withPlace (switch : Switch σ) (name : Text) : Text :=
  match switch.effect.place? with
  | some place => name ++ ' ' :: place
  | none => name

/-- The switch as the usage shows it. -/
def inUsage (switch : Switch σ) : Text :=
  '[' :: switch.withPlace (switch.names.headD []) ++ [']']

/-- The switch as the help shows it. -/
def inHelp (switch : Switch σ) : Text :=
  List.intercalate ", ".toList (switch.names.map switch.withPlace)

end Switch

/-- The switch that shows the help. -/
def helpSwitch : Switch σ :=
  ⟨["-h", "--help"], .help, "show this help message and exit"⟩

/-- A program with its options. -/
structure Program (σ : Type) where
  name : Text
  about : Text
  options : List (Switch σ)

namespace Program

/-- The width that lines of the usage are filled to. -/
def lineWidth : Nat := 78

/-- The switches in the order in which they are shown. -/
def switches (program : Program σ) : List (Switch σ) :=
  helpSwitch :: program.options

/-- A line continued by some parts, and the lines that it takes: a part that would not fit any more
goes to a new line after the margin. -/
def fill (width : Nat) (margin line : Text) : List Text → List Text
  | [] => [line]
  | part :: parts =>
    if width < line.length + 1 + part.length then line :: fill width margin (margin ++ part) parts
    else fill width margin (line ++ ' ' :: part) parts

/-- The usage, with a newline after each line. -/
def usage (program : Program σ) : Text :=
  let start := "usage: ".toList ++ program.name
  let margin := List.replicate (start.length + 1) ' '
  (fill lineWidth margin start (program.switches.map Switch.inUsage)).flatMap (· ++ ['\n'])

/-- The line of the help about a switch. -/
def helpLine (width : Nat) (switch : Switch σ) : Text :=
  "  ".toList ++
    (if switch.about.isEmpty then switch.inHelp
      else Text.padded width switch.inHelp ++ "  ".toList ++ switch.about) ++ ['\n']

/-- The help. -/
def help (program : Program σ) : Text :=
  let width := (program.switches.map fun switch => switch.inHelp.length).foldl max 0
  program.usage ++ '\n' :: program.about ++ "\n\noptions:\n".toList ++
    program.switches.flatMap (helpLine width)

/-- The names of all switches, each with its switch. -/
def named (program : Program σ) : List (Text × Switch σ) :=
  program.switches.flatMap fun switch => switch.names.map (·, switch)

/-- The switch with a given name. -/
def switch? (program : Program σ) (name : Text) : Option (Switch σ) :=
  program.named.lookup name

end Program

end CodeKeyboard.CommandLine
