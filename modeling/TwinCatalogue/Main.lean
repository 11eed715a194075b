import TwinCatalogue.CommandLine.Run

/-!
The program. Files and the environment are read here, and what the run concludes is carried out.
The program has no transport of its own, so every exchange ends without a route.
-/

namespace TwinCatalogue

open CommandLine

/-- The files that arguments may name: each argument, and what follows an equals sign or the letter
of a short option in one. -/
def candidatePaths (arguments : List String) : List String :=
  defaultConfig :: arguments.flatMap fun s =>
    [s, String.ofList ((s.toList.dropWhile (· != '=')).drop 1), String.ofList (s.toList.drop 2)]

def systemReason : IO.Error → String
  | .noFileOrDirectory _ code _ => "No such file or directory (os error " ++ toString code ++ ")"
  | .permissionDenied _ code _ => "Permission denied (os error " ++ toString code ++ ")"
  | e => toString e

def readFile (path : String) : IO (Except String String) := do
  try
    match Text.ofUtf8? (← IO.FS.readBinFile path).toList with
    | some text => return .ok text
    | none => return .error "stream did not contain valid UTF-8"
  catch e => return .error (systemReason e)

def writeFile (path text : String) : IO (Except String Unit) := do
  try
    IO.FS.writeFile path text
    return .ok ()
  catch e => return .error (systemReason e)

def readFiles (arguments : List String) : IO Files := do
  let found ← (candidatePaths arguments).mapM fun path => do return (path, ← readFile path)
  return fun path => (found.lookup path).getD (.error "No such file or directory")

end TwinCatalogue

open TwinCatalogue CommandLine

def main (arguments : List String) : IO UInt32 := do
  let files ← readFiles arguments
  let clock ← IO.monoMsNow
  let token ← IO.getEnv "ONBOARD_TOKEN"
  let network := Http.Network.down fun _ => false
  let world (c : Config) := network.world c fun s => (0, s)
  let (conclusion, _) := CommandLine.run files clock token arguments world []
  let written ←
    match conclusion.metrics with
    | none => pure (.ok ())
    | some (path, text) => writeFile path text
  let report := conclusion.report written
  IO.print report.output
  IO.eprint report.complaint
  return UInt32.ofNat report.code
