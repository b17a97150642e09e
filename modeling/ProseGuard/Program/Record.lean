import ProseGuard.Program.Basic
import ProseGuard.Record.Value

/-!
# Records of types

How types and their members are written as JSON and read back. Main statement:
`TypeDecl.ofJson_toJson`, by which a type that is written reads back as itself.

Specification 3, the records of the program model: the fields, their defaults and what is checked of
them.
-/

namespace ProseGuard.Program

open Record (Checked)
open Json (Members)

/-- Reads a parameter. -/
def Parameter.ofMembers (members : Members) : Checked Parameter :=
  Parameter.mk <$> Record.required members "name" Record.text
    <*> Record.required members "type" Record.text

/-- Reads a method. -/
def Method.ofMembers (members : Members) : Checked Method :=
  Method.mk <$> Record.required members "name" Record.text
    <*> Record.optional members "parameters" []
      (Record.listOf (Record.ofObject Parameter.ofMembers))
    <*> Record.optional members "return_type" "void" Record.text
    <*> Record.optional members "static" false Record.flag
    <*> Record.optional members "public" true Record.flag
    <*> Record.optional members "declaring_type" "" Record.text

/-- Reads a constructor. -/
def Constructor.ofMembers (members : Members) : Checked Constructor :=
  Constructor.mk
    <$> Record.optional members "parameters" []
      (Record.listOf (Record.ofObject Parameter.ofMembers))
    <*> Record.optional members "public" true Record.flag
    <*> Record.optional members "declaring_type" "" Record.text

/-- Reads a field. -/
def Field.ofMembers (members : Members) : Checked Field :=
  Field.mk <$> Record.required members "name" Record.text
    <*> Record.required members "type" Record.text
    <*> Record.optional members "static" false Record.flag
    <*> Record.optional members "public" true Record.flag
    <*> Record.optional members "declaring_type" "" Record.text

/-- The words for the kinds of types. -/
def kindWords : List (Text × TypeKind) :=
  [("class", .classType), ("interface", .interfaceType), ("enum", .enumType)]

/-- The word for a kind of type. -/
def TypeKind.word : TypeKind → Text
  | classType => "class"
  | interfaceType => "interface"
  | enumType => "enum"

/-- Reads a type. -/
def TypeDecl.ofMembers (members : Members) : Checked TypeDecl :=
  TypeDecl.mk <$> Record.required members "name" Record.text
    <*> Record.optional members "kind" .classType (Record.choice kindWords)
    <*> Record.optional members "supertypes" [] (Record.listOf Record.text)
    <*> Record.optional members "methods" [] (Record.listOf (Record.ofObject Method.ofMembers))
    <*> Record.optional members "fields" [] (Record.listOf (Record.ofObject Field.ofMembers))
    <*> Record.optional members "constructors" []
      (Record.listOf (Record.ofObject Constructor.ofMembers))

/-- Reads a type from a value. -/
def TypeDecl.ofJson : Json → Checked TypeDecl :=
  Record.ofObject TypeDecl.ofMembers

/-- Reads a method from a value. -/
def Method.ofJson : Json → Checked Method :=
  Record.ofObject Method.ofMembers

/-- Reads a constructor from a value. -/
def Constructor.ofJson : Json → Checked Constructor :=
  Record.ofObject Constructor.ofMembers

/-- Reads a field from a value. -/
def Field.ofJson : Json → Checked Field :=
  Record.ofObject Field.ofMembers

/-- Writes a parameter. -/
def Parameter.toJson (p : Parameter) : Json :=
  .object [("name", .string p.name), ("type", .string p.type)]

/-- Writes a method. -/
def Method.toJson (m : Method) : Json :=
  .object [
    ("name", .string m.name),
    ("parameters", .array (m.parameters.map Parameter.toJson)),
    ("return_type", .string m.returnType),
    ("static", .bool m.isStatic),
    ("public", .bool m.isPublic),
    ("declaring_type", .string m.declaringType)]

/-- Writes a constructor. -/
def Constructor.toJson (c : Constructor) : Json :=
  .object [
    ("parameters", .array (c.parameters.map Parameter.toJson)),
    ("public", .bool c.isPublic),
    ("declaring_type", .string c.declaringType)]

/-- Writes a field. -/
def Field.toJson (f : Field) : Json :=
  .object [
    ("name", .string f.name),
    ("type", .string f.type),
    ("static", .bool f.isStatic),
    ("public", .bool f.isPublic),
    ("declaring_type", .string f.declaringType)]

/-- Writes a type. -/
def TypeDecl.toJson (t : TypeDecl) : Json :=
  .object [
    ("name", .string t.name),
    ("kind", .string t.kind.word),
    ("supertypes", .strings t.supertypes),
    ("methods", .array (t.methods.map Method.toJson)),
    ("fields", .array (t.fields.map Field.toJson)),
    ("constructors", .array (t.constructors.map Constructor.toJson))]

@[simp] theorem Parameter.ofJson_toJson (p : Parameter) :
    Record.ofObject Parameter.ofMembers p.toJson = .valid p := by
  simp [Record.ofObject, toJson, ofMembers, Record.required, List.lookup_cons]

@[simp] theorem Method.ofJson_toJson (m : Method) : ofJson m.toJson = .valid m := by
  simp [ofJson, Record.ofObject, toJson, ofMembers, Record.required, Record.optional,
    List.lookup_cons, Record.listOf_array Parameter.ofJson_toJson]

@[simp] theorem Constructor.ofJson_toJson (c : Constructor) : ofJson c.toJson = .valid c := by
  simp [ofJson, Record.ofObject, toJson, ofMembers, Record.optional, List.lookup_cons,
    Record.listOf_array Parameter.ofJson_toJson]

@[simp] theorem Field.ofJson_toJson (f : Field) : ofJson f.toJson = .valid f := by
  simp [ofJson, Record.ofObject, toJson, ofMembers, Record.required, Record.optional,
    List.lookup_cons]

theorem TypeKind.choice_word (k : TypeKind) :
    Record.choice kindWords (.string k.word) = .valid k := by
  cases k <;> rfl

/-- A type that is written reads back as itself. -/
@[simp] theorem TypeDecl.ofJson_toJson (t : TypeDecl) : ofJson t.toJson = .valid t := by
  have hm := Record.listOf_array Method.ofJson_toJson t.methods
  have hf := Record.listOf_array Field.ofJson_toJson t.fields
  have hc := Record.listOf_array Constructor.ofJson_toJson t.constructors
  have hs := Record.listOf_array Record.text_string t.supertypes
  rw [Method.ofJson] at hm
  rw [Field.ofJson] at hf
  rw [Constructor.ofJson] at hc
  simp [ofJson, Record.ofObject, toJson, ofMembers, Record.required, Record.optional,
    List.lookup_cons, TypeKind.choice_word, Json.strings, hm, hf, hc, hs]

end ProseGuard.Program
