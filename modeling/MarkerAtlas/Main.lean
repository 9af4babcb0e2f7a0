import MarkerAtlas.Service.Console
import MarkerAtlas.Settings.Document
import Std.Time.DateTime.Timestamp

/-!
# Command line

`marker-atlas [--config FILE]` serves the requests that stand on the lines of standard input, with
the settings in FILE and a database that is kept as long as the program runs.
-/

namespace MarkerAtlas.Main

/-- Reads the settings, from the file that the arguments name if they name one. -/
def readSettings : List String → IO (Except SettingsError (Settings Float))
  | ["--config", path] => do
    try
      return Settings.ofText (← IO.FS.readFile path)
    catch e =>
      return .error (.unreadable path (toString e))
  | _ => return .ok .standard

/-- The time in milliseconds since the beginning of 1970. -/
def now : IO Int64 := do
  let t ← Std.Time.Timestamp.now
  return Int64.ofInt t.toMillisecondsSinceUnixEpoch.val

/-- Serves the requests on the lines that are left. -/
partial def serve (input output : IO.FS.Stream) (server : Server) : IO Unit := do
  let line ← input.getLine
  if line.isEmpty then return
  let (server, reply) := server.handle (← now) (Request.ofLine line.trimAsciiEnd.toString)
  output.putStrLn reply.response.line
  output.flush
  serve input output server

end MarkerAtlas.Main

/-- Serves requests from standard input. -/
def main (args : List String) : IO UInt32 := do
  match ← MarkerAtlas.Main.readSettings args with
  | .error e =>
    IO.eprintln (e.message?.getD "configuration error: the file holds no settings")
    return 1
  | .ok settings =>
    let server := MarkerAtlas.Server.new settings (.opened MarkerAtlas.Database.empty)
    MarkerAtlas.Main.serve (← IO.getStdin) (← IO.getStdout) server
    return 0
