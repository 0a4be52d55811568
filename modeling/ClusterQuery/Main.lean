import ClusterQuery.CommandLine.Basic

/-!
The program. It reads the environment and files; servers are out of its reach, so that every request stays
without an answer.
-/

namespace ClusterQuery.CommandLine

/-- What is found under the name of a file. -/
def readContents (path : String) : IO FileContents := do
  try
    let bytes ← IO.FS.readBinFile path
    match String.fromUTF8? bytes with
    | some text => return .text text.toList
    | none => return .unreadable
  catch
    | .noFileOrDirectory .. => return .missing
    | _ => return .unreadable

/-- The machine that the program runs on. -/
def host : Host IO :=
  { lookup := fun name => IO.getEnv name
    read := readContents
    request := fun _ _ => return .silence
    processors := 1 }

/-- Runs a command line and tells its outcome. -/
def runHere (arguments : List String) : IO UInt32 := do
  let outcome ← run host arguments
  IO.print (String.ofList outcome.output)
  if let some line := outcome.complaint then IO.eprintln line
  return outcome.exitCode.toUInt32

end ClusterQuery.CommandLine

def main (arguments : List String) : IO UInt32 := ClusterQuery.CommandLine.runHere arguments
