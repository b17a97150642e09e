import ProseGuard.Command.Guards

/-!
# The serve command

Checks the settings and asks for the service to be started; problems of the settings are told
before that.

Specification 6, the console command `docguards-serve`: `serve`.
-/

namespace ProseGuard.Command

/-- Where and how a service listens. -/
structure Launch where
  host : Given Text := .value "127.0.0.1"
  tcpPort : Given Int := .value 8000
  /-- Whether to start anew when the program changes. -/
  reload : Bool := false
deriving DecidableEq

/-- What the serve command comes to: a service to start, or an outcome without one. -/
inductive Serving where
  | launch (launch : Launch)
  | stopped (outcome : Outcome)

/-- The grammar of the serve command's command line. -/
def serveGrammar : Grammar Launch where
  switches := [
    ⟨["-h", "--help"], .help⟩,
    ⟨["--host"], .value fun text launch => .ok { launch with host := text }⟩,
    ⟨["--port"], .value fun text launch =>
      (text.read integerValue).map fun number => { launch with tcpPort := number }⟩,
    ⟨["--reload"], .mark fun launch => { launch with reload := true }⟩]
  operand := none

/-- Loads the settings and the rank that they set the log to. -/
def checkedSettings (files : Files) (environment : Option Text) : Except Failure Settings := do
  let settings ← Settings.load files environment none []
  let _ ← levelRank settings.logLevel
  return settings

/-- Prepares a service for a command line that was read. -/
def prepare (files : Files) (environment : Option Text) (launch : Launch) :
    Except Failure Serving :=
  match checkedSettings files environment with
  | .ok _ => .ok (.launch launch)
  | .error (.problem problem) => .ok (.stopped (.ofProblem problem []))
  | .error (.fault fault) => .error (.fault fault)

/-- Performs the serve command. -/
def serve (files : Files) (environment : Option Text) (line : List Text) :
    Except Failure Serving :=
  match serveGrammar.read {} line with
  | .ok launch => prepare files environment launch
  | .error stop => .ok (.stopped (.ofStop stop))

end ProseGuard.Command
