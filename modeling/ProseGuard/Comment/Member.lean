import ProseGuard.Program.Record

/-!
# Documented members

A method or constructor with its documentation comment: one tag for each thing said about a
parameter, and one for each exception. Main statement: `Member.ofJson_toJson`, by which a member
that is written reads back as itself.

Specification 3, the documentation model: `param_tags_for` is `Member.tagsFor`, `signature` is
`Member.signature`.
-/

namespace ProseGuard.Comment

open Program (Parameter)
open Record (Checked)
open Json (Members)

/-- What a comment says about a parameter. -/
structure ParamTag where
  parameter : Text
  comment : Text := ""
deriving DecidableEq

/-- What a comment says about an exception. -/
structure ThrowsTag where
  exception : Text
  comment : Text := ""
deriving DecidableEq

/-- A method or constructor as its documentation shows it. The parameters are those written in
the source, in order. -/
structure Member where
  name : Text
  containingType : Text
  parameters : List Parameter := []
  isConstructor : Bool := false
  comment : Text := ""
  paramTags : List ParamTag := []
  throwsTags : List ThrowsTag := []
deriving DecidableEq

namespace Member

/-- The types of the parameters. -/
def parameterTypes (m : Member) : List Text :=
  Program.parameterTypes m.parameters

/-- The tags about a parameter. -/
def tagsFor (m : Member) (parameter : Text) : List ParamTag :=
  m.paramTags.filter fun tag => tag.parameter = parameter

/-- The member as messages name it. -/
def signature (m : Member) : Text :=
  m.containingType ++ "." ++ m.name ++ "(" ++
    Text.join ", " (m.parameters.map fun p => p.type ++ " " ++ p.name) ++ ")"

end Member

/-- Reads a parameter tag. -/
def ParamTag.ofJson : Json → Checked ParamTag :=
  Record.ofObject fun members =>
    ParamTag.mk <$> Record.required members "parameter" Record.text
      <*> Record.optional members "comment" "" Record.text

/-- Reads a throws tag. -/
def ThrowsTag.ofJson : Json → Checked ThrowsTag :=
  Record.ofObject fun members =>
    ThrowsTag.mk <$> Record.required members "exception" Record.text
      <*> Record.optional members "comment" "" Record.text

/-- Reads a member from the members of an object. -/
def Member.ofMembers (members : Members) : Checked Member :=
  Member.mk <$> Record.required members "name" Record.text
    <*> Record.required members "containing_type" Record.text
    <*> Record.optional members "parameters" []
      (Record.listOf (Record.ofObject Parameter.ofMembers))
    <*> Record.optional members "is_constructor" false Record.flag
    <*> Record.optional members "comment" "" Record.text
    <*> Record.optional members "param_tags" [] (Record.listOf ParamTag.ofJson)
    <*> Record.optional members "throws_tags" [] (Record.listOf ThrowsTag.ofJson)

/-- Reads a member. -/
def Member.ofJson : Json → Checked Member :=
  Record.ofObject Member.ofMembers

/-- Writes a parameter tag. -/
def ParamTag.toJson (tag : ParamTag) : Json :=
  .object [("parameter", .string tag.parameter), ("comment", .string tag.comment)]

/-- Writes a throws tag. -/
def ThrowsTag.toJson (tag : ThrowsTag) : Json :=
  .object [("exception", .string tag.exception), ("comment", .string tag.comment)]

/-- Writes a member. -/
def Member.toJson (m : Member) : Json :=
  .object [
    ("name", .string m.name),
    ("containing_type", .string m.containingType),
    ("parameters", .array (m.parameters.map Parameter.toJson)),
    ("is_constructor", .bool m.isConstructor),
    ("comment", .string m.comment),
    ("param_tags", .array (m.paramTags.map ParamTag.toJson)),
    ("throws_tags", .array (m.throwsTags.map ThrowsTag.toJson))]

@[simp] theorem ParamTag.ofJson_toJson (tag : ParamTag) : ofJson tag.toJson = .valid tag := by
  simp [ofJson, Record.ofObject, toJson, Record.required, Record.optional, List.lookup_cons]

@[simp] theorem ThrowsTag.ofJson_toJson (tag : ThrowsTag) : ofJson tag.toJson = .valid tag := by
  simp [ofJson, Record.ofObject, toJson, Record.required, Record.optional, List.lookup_cons]

/-- A member that is written reads back as itself. -/
@[simp] theorem Member.ofJson_toJson (m : Member) : ofJson m.toJson = .valid m := by
  simp [ofJson, Record.ofObject, toJson, ofMembers, Record.required, Record.optional,
    List.lookup_cons, Record.listOf_array Parameter.ofJson_toJson,
    Record.listOf_array ParamTag.ofJson_toJson, Record.listOf_array ThrowsTag.ofJson_toJson]

end ProseGuard.Comment
