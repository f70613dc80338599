import CodeKeyboard.CommandLine.Query

/-!
# The program

The outer layer of the command line: it reads the arguments and the lines of a conversation, and
writes what the plan says.
-/

namespace CodeKeyboard.CommandLine

/-- Writes a text as output at once. -/
def say (s : Text) : IO Unit := do
  let out ← IO.getStdout
  out.putStr (String.ofList s)
  out.flush

/-- The line without the newline it ends with. -/
def withoutNewline (line : String) : Text :=
  let s := line.toList
  if s.getLast? = some '\n' then s.dropLast else s

/-- Answers lines until an empty one or the end of the input. -/
partial def converse (conversation : Query.Conversation) : IO Unit := do
  say Query.prompt
  let line ← (← IO.getStdin).getLine
  let text := withoutNewline line
  if text.isEmpty then return
  match conversation.reply text with
  | .ok reply => say reply
  | .error cause => throw (IO.userError (String.ofList cause.message))
  converse conversation

end CodeKeyboard.CommandLine

open CodeKeyboard CodeKeyboard.CommandLine in
/-- Carries out the plan for the arguments. -/
def main (arguments : List String) : IO UInt32 := do
  match Query.plan (arguments.map String.toList) with
  | .error cause =>
    IO.eprintln (String.ofList cause.message)
    return 1
  | .ok plan =>
    say plan.output
    match plan.conversation with
    | some conversation =>
      say conversation.opening
      converse conversation
    | none => pure ()
    IO.eprint (String.ofList plan.errors)
    return plan.code.toUInt32
