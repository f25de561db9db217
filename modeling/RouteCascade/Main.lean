import RouteCascade.Cli.Run
import RouteCascade.Cli.Surroundings

/-!
# The program

Reads the settings, prints the result, and sets the exit code. Connections are made by whoever embeds
the library: to the program alone, nobody can be reached.
-/
namespace RouteCascade

open Text

/-- The number that the system gives to an error on a file. -/
def fileErrorNumber : IO.Error → Int
  | .noFileOrDirectory _ n _ | .permissionDenied _ n _ | .inappropriateType _ n _ => n.toNat
  | _ => Net.OsError.noSuchFile

def readFile (path : String) : IO (Except Int Bytes) := do
  try
    let content ← IO.FS.readBinFile path
    pure (.ok content.toList)
  catch e => pure (.error (fileErrorNumber e))

end RouteCascade

open RouteCascade in
def main (args : List String) : IO UInt32 := do
  let name :=
    match Cli.Arguments.parse args with
    | .run a => a.settingsFile
    | _ => ""
  let content ← readFile name
  let surroundings : Cli.Surroundings := { network := .deserted }
  let summary := Cli.run ⟨fun _ => content, surroundings.outside, { }⟩ args
  for p in summary.printed do
    IO.eprintln p.text
  let out ← IO.getStdout
  out.write ⟨summary.output.toArray⟩
  out.flush
  return UInt32.ofNat summary.exit.code
