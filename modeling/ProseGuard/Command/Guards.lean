import ProseGuard.Command.Arguments
import ProseGuard.Guard.Condition
import ProseGuard.Json.Printer
import ProseGuard.Program.Description
import ProseGuard.Settings.Load
import ProseGuard.Text.Integer

/-!
# The guards command

Reads a program description and prints the guards of its documented members as JSON. Problems are
told on the error stream and end the command with status 1, a command line that cannot be read
with status 2. Guards that the output cannot carry, as text in UTF-8 cannot carry half of a
surrogate pair, end the command without a status. Main statement: `perform_status`, by which a
command that finishes has status 0 or 1 once its command line is read.

Specification 6, the console command `docguards-translate`: reading the command line and all that
follows is `guards`, loading the documented members is `Program.loadMembers`.
-/

namespace ProseGuard.Command

open Comment (Member Pipelines)

/-- How a command ended: its status, what it printed and what its log shows. -/
structure Outcome where
  status : Nat
  out : Text
  err : Text
  log : List Event

/-- The outcome of telling a problem. -/
def Outcome.ofProblem (problem : Problem) (log : List Event) : Outcome :=
  ⟨1, "", "error: " ++ problem.message, log⟩

/-- The outcome of a command line that is not read. -/
def Outcome.ofStop : Stop → Outcome
  | .help => ⟨0, "", "", []⟩
  | .usage message => ⟨2, "", "error: " ++ message, []⟩

/-- What the command line tells the guards command. -/
structure GuardsArguments where
  program : Text := ""
  settings : Option Text := none
  member : Option Text := none
  threshold : Option (Given Int) := none
  source : Option (Given Text) := none
  verbose : Bool := false
deriving DecidableEq

/-- Takes an integer as the value of a switch. -/
def integerValue (text : Text) : Except Text Int :=
  match Text.readInteger? text with
  | some value => .ok value
  | none => .error ("invalid int value: " ++ Text.quoted text)

/-- Takes one of several words as the value of a switch. -/
def choiceValue (choices : List Text) (text : Text) : Except Text Text :=
  if choices.contains text then .ok text
  else
    .error ("invalid choice: " ++ Text.quoted text ++ " (choose from " ++
      Text.join ", " (choices.map Text.quoted) ++ ")")

/-- The grammar of the guards command's command line. -/
def guardsGrammar : Grammar GuardsArguments where
  switches := [
    ⟨["-h", "--help"], .help⟩,
    ⟨["--settings"], .value fun path args => .ok { args with settings := path.value? }⟩,
    ⟨["--member"], .value fun name args => .ok { args with member := name.value? }⟩,
    ⟨["--threshold"], .value fun text args =>
      (text.read integerValue).map fun value => { args with threshold := some value }⟩,
    ⟨["--source"], .value fun text args =>
      (text.read (choiceValue ["spacy", "pattern"])).map fun word =>
        { args with source := some word }⟩,
    ⟨["-v", "--verbose"], .mark fun args => { args with verbose := true }⟩]
  operand := some ⟨"program", fun text args => { args with program := text }⟩

/-- What a switch was given, as the value of a setting: null without the switch, and an empty list
for an empty list of values. -/
def settingValue {α : Type} (form : α → Json) : Option (Given α) → Json
  | none => .null
  | some .nothing => .array []
  | some (.value a) => form a

/-- The settings that the command line overrides; null where it is silent. -/
def GuardsArguments.overrides (args : GuardsArguments) : Json.Members := [
  ("distance_threshold", settingValue .integer args.threshold),
  ("proposition_source", settingValue .string args.source)]

/-- What the command works on once all is loaded. -/
structure Loaded where
  settings : Settings
  /-- The rank from which the log shows events. -/
  logRank : Int
  program : Program
  members : List Member

/-- Loads what the command line asks for. -/
def load (files : Files) (environment : Option Text) (args : GuardsArguments) :
    Except Failure Loaded := do
  let settings ← Settings.load files environment args.settings args.overrides
  let rank ← levelRank (if args.verbose then "DEBUG" else settings.logLevel)
  let program ← Program.load files args.program
  let members ← Program.loadMembers files args.program
  return ⟨settings, effectiveRank rank, program, members⟩

/-- The members that the command line asks for: all, or those of one name. -/
def GuardsArguments.selected (args : GuardsArguments) (members : List Member) :
    List Member :=
  match args.member.filter fun name => !name.isEmpty with
  | some name => members.filter fun m => m.name = name
  | none => members

/-- The guards of the members that are asked for. -/
def allGuards (pipelines : Pipelines) (args : GuardsArguments) (loaded : Loaded) :
    Run (List MemberGuards) := do
  let members := args.selected loaded.members
  Run.report (.started members.length args.program)
  members.mapM (Context.ofSettings loaded.program loaded.settings pipelines).memberGuards

/-- Guards as they are printed. -/
def printed (guards : List MemberGuards) : Text :=
  (Json.array (guards.map MemberGuards.toJson)).indented ++ "\n"

/-- The outcome of what was loaded. Guards that the output cannot carry are a fault; `carries` tells
which texts it can. -/
def finish (pipelines : Pipelines) (carries : Text → Bool) (args : GuardsArguments)
    (loaded : Loaded) : Except Failure Outcome :=
  let run := allGuards pipelines args loaded
  let log := (Event.loadedOnce run.events).filter (Event.shownFrom loaded.logRank)
  match run.result with
  | .ok guards =>
    if carries (printed guards) then .ok ⟨0, printed guards, "", log⟩
    else .error (.fault .unwritableText)
  | .error (.problem problem) => .ok (.ofProblem problem log)
  | .error (.fault fault) => .error (.fault fault)

/-- Performs the command for a command line that was read. A fault has no outcome. -/
def perform (pipelines : Pipelines) (carries : Text → Bool) (files : Files)
    (environment : Option Text) (args : GuardsArguments) : Except Failure Outcome :=
  match load files environment args with
  | .ok loaded => finish pipelines carries args loaded
  | .error (.problem problem) => .ok (.ofProblem problem [])
  | .error (.fault fault) => .error (.fault fault)

/-- Performs the guards command, with the pipelines at hand and an output that carries the given
texts; where nothing is said no pipeline is at hand and the output carries every text. -/
def guards (files : Files) (environment : Option Text) (line : List Text)
    (pipelines : Pipelines := .absent) (carries : Text → Bool := fun _ => true) :
    Except Failure Outcome :=
  match guardsGrammar.read {} line with
  | .ok args => perform pipelines carries files environment args
  | .error stop => .ok (.ofStop stop)

/-- Once its command line is read, a command that finishes has status 0 or 1. -/
theorem perform_status {pipelines : Pipelines} {carries : Text → Bool} {files : Files}
    {environment : Option Text} {args : GuardsArguments} {outcome : Outcome}
    (h : perform pipelines carries files environment args = .ok outcome) :
    outcome.status = 0 ∨ outcome.status = 1 := by
  simp only [perform] at h
  split at h
  · simp only [finish] at h
    split at h
    · split at h
      · cases h; exact .inl rfl
      · cases h
    · cases h; exact .inr rfl
    · cases h
  · cases h; exact .inr rfl
  · cases h

end ProseGuard.Command
