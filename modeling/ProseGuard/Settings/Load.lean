import ProseGuard.Files
import ProseGuard.Settings

/-!
# Loading settings

Settings are merged from the standard ones, a settings file and overrides, the later ones
winning, and checked once.

Specification 7, configuration: `load_settings` is `Settings.load`.
-/

namespace ProseGuard

open Json (Members)

namespace Settings

/-- The members of an object with those of another written over them. -/
def overwrite (members newer : Members) : Members :=
  newer.foldl (fun object member => Json.put object member.1 member.2) members

/-- The overrides that say something: null leaves a setting as it is. -/
def effective (overrides : Members) : Members :=
  overrides.filter fun member =>
    match member.2 with
    | .null => false
    | _ => true

/-- The members of the standard settings. -/
def defaultMembers : Members :=
  standard.toMembers

/-- The settings file: the one that is asked for, else the one that the environment names. An
empty name is none. -/
def fileName? (path environment : Option Text) : Option Text :=
  match path.filter fun name => !name.isEmpty with
  | some name => some name
  | none => environment.filter fun name => !name.isEmpty

/-- The members of the object that a settings file holds. -/
def readFile (files : Files) (path : Text) : Except Failure Members :=
  match files.readJson path with
  | .ok (.object members) => .ok members
  | .ok _ => .error (.problem (.configuration (.notObject path)))
  | .error .missing | .error .underFile | .error .overlong | .error .unwritable
  | .error .embeddedNul =>
    .error (.problem (.configuration (.missingFile path)))
  | .error .malformed => .error (.problem (.configuration (.malformedFile path)))
  | .error .directory => .error (.fault .isDirectory)
  | .error .undecodable => .error (.fault .undecodable)
  | .error (.tooManyDigits digits) => .error (.fault (.tooManyDigits digits))
  | .error .tooDeep => .error (.fault .tooDeep)

/-- Checks members that were merged. -/
def ofMerged (members : Members) : Except Failure Settings :=
  (ofMembers members).orElse fun issues => .problem (.configuration (.invalid issues))

/-- The settings from the standard ones, a settings file and overrides. -/
def load (files : Files) (environment path : Option Text) (overrides : Members) :
    Except Failure Settings := do
  let written ← match fileName? path environment with
    | some name => readFile files name
    | none => .ok []
  ofMerged (overwrite (overwrite defaultMembers written) (effective overrides))

end Settings

end ProseGuard
