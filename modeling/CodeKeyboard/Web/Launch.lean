import CodeKeyboard.CommandLine.Arguments
import CodeKeyboard.Launch

/-!
# Launching the web interface (specification §E8)

The program that starts the server. What it does with its arguments is told by what it writes and by
where servers are to be started.
-/

namespace CodeKeyboard.Web

open CommandLine

/-- Where a server listens; nothing stands for what a switch with no value leaves open. -/
structure Server where
  host : Option Text
  port : Option Int
  debugging : Bool
deriving DecidableEq, Repr

namespace Launch

/-- The settings of the program. -/
structure Settings where
  address : Text
  host : Option Text
  port : Option Int
  verbose : Bool
deriving DecidableEq, Repr

/-- The settings without any arguments. -/
def Settings.usual : Settings := ⟨[], some "127.0.0.1", some 8000, false⟩

/-- The program and its options. -/
def program : Program Settings where
  name := "smartkeys"
  about := "Run Flask UI on top of Engine"
  options :=
    [⟨["--db"], .text "DB" fun s settings => { settings with address := s.getD [] }, []⟩,
      ⟨["--host"], .text "HOST" fun s settings => { settings with host := s }, []⟩,
      ⟨["--port"], .number "PORT" fun n settings => { settings with port := n }, []⟩,
      ⟨["--verbose"], .flag fun settings => { settings with verbose := true }, []⟩]

/-- The server for given settings. -/
def Settings.server (settings : Settings) : Server :=
  ⟨settings.host, settings.port, settings.verbose⟩

/-- What the program leaves behind, and the servers that it starts. -/
def run (arguments : List Text) : Except LaunchError (Finished × List Server) :=
  match program.parse Settings.usual arguments with
  | .help => .ok (⟨0, program.help, []⟩, [])
  | .refused cause => .ok (⟨2, [], program.complaint cause⟩, [])
  | .run settings =>
    (Engine.launch settings.address).map fun (_, events) =>
      (⟨0, [], Event.log settings.verbose (events ++ [.engineStopped])⟩, [settings.server])

end Launch

end CodeKeyboard.Web
