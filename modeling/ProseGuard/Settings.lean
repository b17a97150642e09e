import ProseGuard.Comment.Source
import ProseGuard.Program.Hierarchy
import ProseGuard.Record.Value
import ProseGuard.Text.Case

/-!
# Settings

What can be told beforehand, and the context that it makes with a program. Settings are read from an
object whose fields all have defaults and among which no other may stand. Main statement:
`Settings.ofMembers_toMembers`, by which settings that are written read back as themselves.

Specification 7, configuration: `build_proposition_source` is `Settings.propositionSource`,
`build_translator` is `Context.ofSettings`, and `configure_logging` takes its level from `logRank`.
-/

namespace ProseGuard

open Record (Checked)
open Json (Members)

/-- How conditions name a parameter: by its name, or by its place among the arguments. -/
inductive ParameterStyle where
  | name
  | args
deriving DecidableEq

/-- Where propositions come from. -/
inductive SourceKind where
  | pipeline
  | pattern
deriving DecidableEq

/-- What is told beforehand. -/
structure Settings where
  /-- The largest edit distance at which a word still names a candidate. -/
  threshold : Nat
  /-- The expression for the object that a member belongs to. -/
  receiver : Text
  parameterStyle : ParameterStyle
  source : SourceKind
  pipelineModel : Text
  logLevel : Text
  receiver_ne : receiver ≠ []
  receiver_whole : receiver.isWhole = true
deriving DecidableEq

/-- The words for the parameter styles. -/
def styleWords : List (Text × ParameterStyle) := [("name", .name), ("args", .args)]

/-- The words for the sources. -/
def sourceWords : List (Text × SourceKind) := [("spacy", .pipeline), ("pattern", .pattern)]

/-- The word for a parameter style. -/
def ParameterStyle.word : ParameterStyle → Text
  | name => "name"
  | args => "args"

/-- The word for a source. -/
def SourceKind.word : SourceKind → Text
  | pipeline => "spacy"
  | pattern => "pattern"

namespace Settings

/-- The settings where nothing else is said. -/
def standard : Settings where
  threshold := 2
  receiver := "target"
  parameterStyle := .name
  source := .pipeline
  pipelineModel := "en_core_web_sm"
  logLevel := "WARNING"
  receiver_ne := by decide
  receiver_whole := Text.isWhole_ofString "target"

/-- The names of the fields, in order. -/
def fieldNames : List Text := [
  "distance_threshold", "receiver", "parameter_style", "proposition_source", "spacy_model",
  "log_level"]

/-- Refuses every member that is not a field. -/
def onlyFields (members : Members) : Checked Unit :=
  match members.filter fun member => !fieldNames.contains member.1 with
  | [] => .valid ()
  | unknown => .invalid (unknown.map fun member => ⟨[.field member.1], .unknownField⟩)

/-- Settings from their parts. -/
def ofParts (threshold : Nat) (receiver : Record.NonEmptyText)
    (parameterStyle : ParameterStyle) (source : SourceKind) (pipelineModel logLevel : Text)
    (_ : Unit) : Settings where
  threshold := threshold
  receiver := receiver.1
  parameterStyle := parameterStyle
  source := source
  pipelineModel := pipelineModel
  logLevel := logLevel
  receiver_ne := receiver.2.1
  receiver_whole := receiver.2.2

/-- Reads settings from the members of an object whose names are whole; a field that is not there is
the standard one. -/
def ofNamed (members : Members) : Checked Settings :=
  ofParts <$> Record.optional members "distance_threshold" standard.threshold Record.natural
    <*> Record.optional members "receiver"
      ⟨standard.receiver, standard.receiver_ne, standard.receiver_whole⟩ Record.nonEmptyText
    <*> Record.optional members "parameter_style" standard.parameterStyle
      (Record.choice styleWords)
    <*> Record.optional members "proposition_source" standard.source (Record.choice sourceWords)
    <*> Record.optional members "spacy_model" standard.pipelineModel Record.text
    <*> Record.optional members "log_level" standard.logLevel Record.text
    <*> onlyFields members

/-- Reads settings from the members of an object. A name in which half of a surrogate pair stands is
the only thing that is reported. -/
def ofMembers (members : Members) : Checked Settings :=
  if members.all fun member => member.1.isWhole then ofNamed members else .flawed .brokenText

/-- The members that write the settings. -/
def toMembers (s : Settings) : Members := [
  ("distance_threshold", .integer s.threshold),
  ("receiver", .string s.receiver),
  ("parameter_style", .string s.parameterStyle.word),
  ("proposition_source", .string s.source.word),
  ("spacy_model", .string s.pipelineModel),
  ("log_level", .string s.logLevel)]

/-- Writes the settings. -/
def toJson (s : Settings) : Json :=
  .object s.toMembers

/-- The proposition source that the settings ask for. -/
def propositionSource (s : Settings) (pipelines : Comment.Pipelines := .absent) : Comment.Source :=
  match s.source with
  | .pattern => .pattern
  | .pipeline => .named pipelines s.pipelineModel

/-- Settings that are written read back as themselves. -/
theorem ofMembers_toMembers (s : Settings) : ofMembers s.toMembers = .valid s := by
  have hstyle : Record.choice styleWords (.string s.parameterStyle.word) =
      .valid s.parameterStyle := by
    cases s.parameterStyle <;> rfl
  have hsource : Record.choice sourceWords (.string s.source.word) = .valid s.source := by
    cases s.source <;> rfl
  have hreceiver : Record.nonEmptyText (.string s.receiver) =
      .valid ⟨s.receiver, s.receiver_ne, s.receiver_whole⟩ := by
    simp [Record.nonEmptyText, s.receiver_ne, s.receiver_whole]
  simp [ofMembers, ofNamed, toMembers, onlyFields, fieldNames, Record.optional, List.lookup_cons,
    hstyle, hsource, hreceiver, ofParts]

end Settings

/-- The surroundings in which comments become guards: the program that they speak about, the source
of propositions and the settings. -/
structure Context where
  program : Program
  source : Comment.Source
  settings : Settings

namespace Context

/-- The context of a program under settings, with the source that they ask for. -/
def ofSettings (program : Program) (settings : Settings) (pipelines : Comment.Pipelines) :
    Context where
  program := program
  source := settings.propositionSource pipelines
  settings := settings

/-- The expression for the object that a member belongs to. -/
def receiver (ctx : Context) : Text :=
  ctx.settings.receiver

end Context

/-- The rank of a level name. -/
def namedRank (name : Text) : Except Failure Int :=
  match levelNames.lookup name with
  | some rank => .ok rank
  | none => .error (.fault (.unknownLevel name))

/-- The rank of a level name, whatever its case. -/
def levelRank (name : Text) : Except Failure Int :=
  namedRank (Text.upper name)

/-- The rank from which a log is told to show events: a level name, whose rank `ofName` knows, or
the rank itself. -/
def logRank (ofName : Text → Except Failure Int) : Json → Except Failure Int
  | .string name => ofName name
  | .integer rank => .ok rank
  | .bool value => .ok (if value then 1 else 0)
  | _ => .error (.fault .notLevel)

end ProseGuard
