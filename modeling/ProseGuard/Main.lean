import ProseGuard.Command.Serve

/-!
# The program

Runs the commands on real files. The first word of the command line may be `serve`; otherwise the
line is that of the guards command. All that is decided is decided by the commands; here files
are read and the outcome is written out.
-/

namespace ProseGuard.Command

/-- The variable that names the settings file. -/
def settingsVariable : String := "DOCGUARDS_SETTINGS"

/-- What a path leads to. -/
def readEntry (path : Path) : IO Entry := do
  match String.fromUTF8? ⟨path.toArray⟩ with
  | none => return .missing
  | some name =>
    try
      return .file (← IO.FS.readBinFile name)
    catch
      | .inappropriateType _ 20 _ => return .underFile
      | .inappropriateType _ _ _ => return .directory
      | _ => return .missing

/-- The view of the files at the paths that texts name. -/
def readFiles (names : List Text) : IO Files := do
  let entries ← (names.filterMap Path.ofText?).mapM fun path => do
    return (path, ← readEntry path)
  return fun path => (entries.lookup path).getD .missing

/-- Writes an outcome out and gives its status. -/
def finishWith (outcome : Outcome) : IO UInt32 := do
  for event in outcome.log do
    match event.level? with
    | some level => IO.eprintln (level.name ++ " - " ++ event.message).shown
    | none => pure ()
  if !outcome.err.isEmpty then IO.eprintln outcome.err.shown
  IO.print outcome.out.shown
  return outcome.status.toUInt32

/-- Tells a failure that ends the program. -/
def abort (failure : Failure) : IO UInt32 := do
  IO.eprintln failure.message.shown
  return 1

/-- The paths that a command line of the guards command asks for. -/
def wantedPaths (line : List Text) : List Text :=
  match guardsGrammar.read {} line with
  | .ok args => args.program :: args.settings.toList
  | .error _ => []

/-- Runs the guards command. No pipeline is at hand, and the output is text in UTF-8. -/
def runGuards (environment : Option Text) (line : List Text) : IO UInt32 := do
  let files ← readFiles (wantedPaths line ++ environment.toList)
  match guards files environment line .absent Text.isWhole with
  | .ok outcome => finishWith outcome
  | .error failure => abort failure

/-- Runs the serve command. Listening is left to a server that answers by the HTTP service; what
it needs to know is written out. -/
def runServe (environment : Option Text) (line : List Text) : IO UInt32 := do
  let files ← readFiles environment.toList
  match serve files environment line with
  | .ok (.launch launch) =>
    match launch.host, launch.tcpPort with
    | .value host, .value number =>
      IO.println (host ++ ":" ++ toString number).shown
      return 0
    | _, _ =>
      IO.eprintln "A service needs a host and a number to listen at"
      return 1
  | .ok (.stopped outcome) => finishWith outcome
  | .error failure => abort failure

/-- Runs the command that a line asks for. -/
def run (line : List String) : IO UInt32 := do
  let environment := (← IO.getEnv settingsVariable).map Text.ofString
  match line with
  | "serve" :: line => runServe environment (line.map .ofString)
  | line => runGuards environment (line.map .ofString)

end ProseGuard.Command

def main (line : List String) : IO UInt32 :=
  ProseGuard.Command.run line
