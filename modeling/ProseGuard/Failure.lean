import ProseGuard.Record.Issue
import ProseGuard.Text.Quoted

/-!
# Failures

Why an operation has no result. A problem lies in the settings or in the description of the
program and is told to the user in words; a fault ends the run.

Specification 9, error handling: a `Problem` is one of the errors of the hierarchy, and a `Fault`
is any other condition that nothing handles.
-/

namespace ProseGuard

open Record (Issue)

/-- A pipeline that cannot be loaded, with the words that tell why. -/
structure MissingPipeline where
  model : Text
  reason : Text

/-- What is wrong with the settings. -/
inductive ConfigurationProblem where
  | missingFile (path : Text)
  | malformedFile (path : Text)
  | notObject (path : Text)
  | invalid (issues : List Issue)
  | noPipeline (missing : MissingPipeline)

/-- Why the contents of a file could not be used. -/
inductive ReadProblem where
  | missing
  | directory
  | underFile
  | overlongPath
  | malformed
  | invalid (issues : List Issue)

/-- What is wrong with the description of a program. -/
inductive ProgramProblem where
  | invalidTypes (issues : List Issue)
  | unreadableTypes (path : Text) (cause : ReadProblem)
  | unreadableMembers (path : Text) (cause : ReadProblem)

/-- A condition that is reported to the user. -/
inductive Problem where
  | configuration (problem : ConfigurationProblem)
  | program (problem : ProgramProblem)
  | unresolvedType (name : Text)

/-- A condition that ends the run. -/
inductive Fault where
  | undecodable
  | notObject
  | notIterable
  | isDirectory
  | tooManyDigits (digits : Nat)
  | tooDeep
  | embeddedNul
  /-- A path names half of a surrogate pair that stands for no byte. -/
  | unwritablePath
  | unknownLevel (name : Text)
  | notLevel
  | noArgument (type : Text)
  /-- An element is looked up by a key that has no fixed value. -/
  | looseKey
  /-- An answer repeats a number that is not finite. -/
  | unwritableNumber
  /-- A text that is written out holds half of a surrogate pair that stands alone. -/
  | unwritableText
  /-- A result holds half of a surrogate pair that stands alone. -/
  | unwritableResult

/-- Why an operation has no result. -/
inductive Failure where
  | problem (problem : Problem)
  | fault (fault : Fault)

/-- What stands in a message for the words of the reader that failed. -/
def causeMark : Text := "<cause>"

/-- The words in which a problem of the settings is told. -/
def ConfigurationProblem.message : ConfigurationProblem → Text
  | missingFile path => "Settings file not found: " ++ path
  | malformedFile path => "Malformed settings file " ++ path ++ ": " ++ causeMark
  | notObject path => "Settings file " ++ path ++ " must hold a JSON object"
  | invalid _ => "Invalid settings: " ++ causeMark
  | noPipeline missing =>
    "spaCy pipeline " ++ Text.quoted missing.model ++ " is not available (" ++ missing.reason ++
      "); install docguards[nlp] and the model, or use the pattern source"

/-- The words in which a problem of a program description is told. -/
def ProgramProblem.message : ProgramProblem → Text
  | invalidTypes _ => "Invalid type description: " ++ causeMark
  | unreadableTypes path _ => "Cannot read program description " ++ path ++ ": " ++ causeMark
  | unreadableMembers path _ =>
    "Cannot read documented members from " ++ path ++ ": " ++ causeMark

/-- The words in which a problem is told. -/
def Problem.message : Problem → Text
  | configuration problem => problem.message
  | program problem => problem.message
  | unresolvedType name => "Cannot resolve type: " ++ name

/-- The words in which a fault is told. -/
def Fault.message : Fault → Text
  | undecodable => "The file is not text in UTF-8"
  | notObject => "An object was expected"
  | notIterable => "A list was expected"
  | isDirectory => "The file is a directory"
  | tooManyDigits digits =>
    "Exceeds the limit (4300 digits) for integer string conversion: value has " ++
      toString digits ++ " digits; use sys.set_int_max_str_digits() to increase the limit"
  | tooDeep => "Containers are nested too deeply"
  | embeddedNul => "embedded null byte"
  | unwritablePath => "A path holds half of a surrogate pair"
  | unknownLevel name => "Unknown level: " ++ Text.quoted name
  | notLevel => "A level is a name or an integer"
  | noArgument type => "No value in scope has the type " ++ type
  | looseKey => "A key holds a list or a table"
  | unwritableNumber => "Out of range float values are not JSON compliant"
  | unwritableText => "A text that is written out holds half of a surrogate pair"
  | unwritableResult => "A result holds half of a surrogate pair"

/-- The words in which a failure is told. -/
def Failure.message : Failure → Text
  | problem p => p.message
  | fault f => f.message

end ProseGuard
