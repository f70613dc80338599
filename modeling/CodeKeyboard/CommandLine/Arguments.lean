import CodeKeyboard.CommandLine.Program
import CodeKeyboard.Text.Integer
import CodeKeyboard.Text.Quoted

/-!
# Reading arguments

First each argument is classified on its own: as an operand, as naming a switch — by its full name,
by the beginning of one long name, with a value attached after `=` or right after a short name — or
as naming none. What follows the argument `--` is operands only. An argument that could name several
switches is refused before anything else happens.

Then the switches take effect from left to right. A switch that takes a value takes the attached
one, or else the next argument if that is an operand. What is attached to the short name of a switch
that takes no value goes on with the letter of a further short switch, whether or not an equals sign
stands before it. Showing the help and a bad value end the program on the spot; operands and unknown
names are reported at the end, since these programs take no operands.

The separator `--` is never a value: a switch that it is attached to is used with none.
-/

namespace CodeKeyboard.CommandLine

/-- Why arguments are refused. -/
inductive UsageError where
  /-- An argument begins several names. -/
  | ambiguous (argument : Text) (names : List Text)
  /-- No value follows a switch that takes one. -/
  | missingValue (label : Text)
  | notANumber (label value : Text)
  /-- A value is attached to a switch that takes none. -/
  | unwantedValue (label value : Text)
  | unrecognized (arguments : List Text)
deriving DecidableEq, Repr

/-- What is said about one switch. -/
def aboutSwitch (label complaint : Text) : Text :=
  "argument ".toList ++ label ++ ": ".toList ++ complaint

/-- What is said about refused arguments. -/
def UsageError.message : UsageError → Text
  | ambiguous argument names =>
    "ambiguous option: ".toList ++ argument ++ " could match ".toList ++
      List.intercalate ", ".toList names
  | missingValue label => aboutSwitch label "expected one argument"
  | notANumber label value => aboutSwitch label ("invalid int value: ".toList ++ value.quoted)
  | unwantedValue label value =>
    aboutSwitch label ("ignored explicit argument ".toList ++ value.quoted)
  | unrecognized arguments =>
    "unrecognized arguments: ".toList ++ List.intercalate [' '] arguments

/-! ## Classifying arguments -/

/-- The argument after which all others are operands. -/
def separator : Text := "--"

/-- What is attached to the name of a switch in its argument. -/
inductive Attached where
  | nothing
  /-- A value of a switch that is called by a long name. -/
  | toLong (value : Text)
  /-- What follows a short name; an equals sign right after the name is left out. -/
  | toShort (value : Text)
deriving DecidableEq, Repr

/-- A value that is attached to a name after an equals sign. -/
def Attached.to (name value : Text) : Attached :=
  if "--".toList.isPrefixOf name then toLong value else toShort value

/-- What an argument is taken for. -/
inductive Argument (σ : Type) where
  | operand
  /-- The argument after which all others are operands. -/
  | separator
  /-- It looks like an option, but there is none of this name. -/
  | unknown
  | switch (switch : Switch σ) (attached : Attached)

/-- Whether a text looks like a negative number: decimal digits of any script after a minus sign,
with or without a point. A newline may end it. -/
def isNegativeNumber : Text → Bool
  | '-' :: s =>
    let body := if s.getLast? = some '\n' then s.dropLast else s
    let isDigit := fun c => (Text.digitValue? c).isSome
    match body.dropWhile isDigit with
    | [] => !body.isEmpty
    | '.' :: decimals => !decimals.isEmpty && decimals.all isDigit
    | _ => false
  | _ => false

/-- A text split at its first equals sign, if it has one. -/
def splitEquals (s : Text) : Text × Option Text :=
  match s.dropWhile (· != '=') with
  | [] => (s, none)
  | _ :: value => (s.takeWhile (· != '='), some value)

namespace Program

/-- The switches that an argument could name by the beginning of a long name, or by a short name
with something right after it. -/
def candidates (program : Program σ) (argument : Text) : List (Text × Argument σ) :=
  if "--".toList.isPrefixOf argument then
    let (start, value) := splitEquals argument
    let attached := (value.map Attached.toLong).getD .nothing
    (program.named.filter fun entry => start.isPrefixOf entry.1).map fun (name, switch) =>
      (name, .switch switch attached)
  else
    (program.named.filter fun entry => entry.1 == argument.take 2).map fun (name, switch) =>
      (name, .switch switch (.toShort (argument.drop 2)))

/-- What an argument that begins with a hyphen is taken for, if it is no full name. -/
def classifyInexact (program : Program σ) (argument : Text) : Except UsageError (Argument σ) :=
  match program.candidates argument with
  | [(_, found)] => .ok found
  | [] =>
    if isNegativeNumber argument || ' ' ∈ argument then .ok .operand else .ok .unknown
  | several => .error (.ambiguous argument (several.map Prod.fst))

/-- What an argument is taken for. -/
def classify (program : Program σ) (argument : Text) : Except UsageError (Argument σ) :=
  if argument.head? != some '-' || argument.length == 1 then .ok .operand
  else
    match program.switch? argument with
    | some switch => .ok (.switch switch .nothing)
    | none =>
      match splitEquals argument with
      | (name, some value) =>
        match program.switch? name with
        | some switch => .ok (.switch switch (.to name value))
        | none => program.classifyInexact argument
      | _ => program.classifyInexact argument

/-- The arguments, each with what it is taken for. -/
def classifyAll (program : Program σ) : List Text → Except UsageError (List (Text × Argument σ))
  | [] => .ok []
  | argument :: rest =>
    if argument = separator then .ok ((argument, .separator) :: rest.map (·, .operand))
    else do
      let first ← program.classify argument
      let others ← program.classifyAll rest
      return (argument, first) :: others

/-! ## What an argument asks for -/

/-- What one argument asks for. -/
structure Asked (σ : Type) where
  /-- The switches in order, each with the value it takes, if there is one. -/
  uses : List (Switch σ × Option Text)
  /-- Whether the next argument is the value of the last switch. -/
  takesNext : Bool

/-- A switch without anything attached. `next?` is the next argument, if it is an operand. -/
def askPlain (switch : Switch σ) (next? : Option Text) : Except UsageError (Asked σ) :=
  if switch.takesValue then
    match next? with
    | some value => .ok ⟨[(switch, some value)], true⟩
    | none => .error (.missingValue switch.label)
  else .ok ⟨[(switch, none)], false⟩

/-- A switch with a value attached, which is its own or none at all. -/
def askWith (switch : Switch σ) (value : Text) : Except UsageError (Asked σ) :=
  if switch.takesValue then
    .ok ⟨[(switch, if value = separator then none else some value)], false⟩
  else .error (.unwantedValue switch.label value)

/-- A switch that is called by a short name with something attached: its value or, if it takes none,
the letter of a further short switch with whatever follows that letter. -/
def askLetters (program : Program σ) (next? : Option Text) (switch : Switch σ) :
    Text → Except UsageError (Asked σ)
  | [] => askWith switch []
  | c :: rest =>
    match switch.takesValue, program.switch? ['-', c] with
    | false, some further => do
      let asked ←
        if rest.isEmpty then askPlain further next? else program.askLetters next? further rest
      return { asked with uses := (switch, none) :: asked.uses }
    | _, _ => askWith switch (c :: rest)

/-- What an argument that names a switch asks for. -/
def ask (program : Program σ) (next? : Option Text) (switch : Switch σ) :
    Attached → Except UsageError (Asked σ)
  | .nothing => askPlain switch next?
  | .toLong value => askWith switch value
  | .toShort value => program.askLetters next? switch value

/-! ## Taking effect -/

/-- What the arguments of a program lead to. -/
inductive Outcome (σ : Type) where
  | run (settings : σ)
  | help
  | refused (cause : UsageError)

/-- Goes on with the settings, unless the program has ended. -/
def Outcome.andThen (outcome : Outcome σ) (next : σ → Outcome σ) : Outcome σ :=
  match outcome with
  | run settings => next settings
  | help => help
  | refused cause => refused cause

/-- What a switch with its value does to the settings. -/
def use (switch : Switch σ) (value : Option Text) (settings : σ) : Outcome σ :=
  match switch.effect with
  | .help => .help
  | .flag set => .run (set settings)
  | .text _ set => .run (set value settings)
  | .number _ set =>
    match value with
    | none => .run (set none settings)
    | some value =>
      match Text.toInt? value with
      | some n => .run (set n settings)
      | none => .refused (.notANumber switch.label value)

/-- What some switches with their values do to the settings, one after the other. -/
def useAll : List (Switch σ × Option Text) → σ → Outcome σ
  | [], settings => .run settings
  | (switch, value) :: rest, settings => (use switch value settings).andThen (useAll rest)

/-- The next argument, if it is an operand. -/
def nextOperand? : List (Text × Argument σ) → Option Text
  | (argument, .operand) :: _ => some argument
  | _ => none

/-- What classified arguments lead to; `meaningless` are the earlier ones that mean nothing. -/
def interpret (program : Program σ) (settings : σ) (meaningless : List Text) :
    List (Text × Argument σ) → Outcome σ
  | [] => if meaningless.isEmpty then .run settings else .refused (.unrecognized meaningless)
  | (_, .switch switch attached) :: rest =>
    match program.ask (nextOperand? rest) switch attached with
    | .error cause => .refused cause
    | .ok asked => (useAll asked.uses settings).andThen fun settings =>
        if asked.takesNext then program.interpret settings meaningless rest.tail
        else program.interpret settings meaningless rest
  | (argument, _) :: rest => program.interpret settings (meaningless ++ [argument]) rest
termination_by arguments => arguments.length
decreasing_by all_goals (simp_wf; try omega)

/-- What the arguments of a program lead to, given the settings without any. -/
def parse (program : Program σ) (settings : σ) (arguments : List Text) : Outcome σ :=
  match program.classifyAll arguments with
  | .error cause => .refused cause
  | .ok classified => program.interpret settings [] classified

/-- What is said when arguments are refused. -/
def complaint (program : Program σ) (cause : UsageError) : Text :=
  program.usage ++ program.name ++ ": error: ".toList ++ cause.message ++ ['\n']

/-- Without arguments the settings stay as they are. -/
@[simp] theorem parse_nil (program : Program σ) (settings : σ) :
    program.parse settings [] = .run settings := by
  simp [parse, classifyAll, interpret]

end Program

end CodeKeyboard.CommandLine
