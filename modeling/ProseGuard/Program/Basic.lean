import ProseGuard.Program.TypeName

/-!
# Types and their members

Descriptions of the types of a program: their methods, fields and constructors. Main statement:
`TypeDecl.claimed_claimed`, by which a type claims its members once.

Specification 3, the records of the program model.
-/

namespace ProseGuard.Program

/-- A parameter of a method or constructor. -/
structure Parameter where
  name : Text
  type : Text
deriving DecidableEq

/-- A method. -/
structure Method where
  name : Text
  parameters : List Parameter := []
  returnType : Text := "void"
  isStatic : Bool := false
  isPublic : Bool := true
  /-- The type that declares it; empty if not yet known. -/
  declaringType : Text := ""
deriving DecidableEq

/-- A constructor. -/
structure Constructor where
  parameters : List Parameter := []
  isPublic : Bool := true
  /-- The type that declares it; empty if not yet known. -/
  declaringType : Text := ""
deriving DecidableEq

/-- A field. -/
structure Field where
  name : Text
  type : Text
  isStatic : Bool := false
  isPublic : Bool := true
  /-- The type that declares it; empty if not yet known. -/
  declaringType : Text := ""
deriving DecidableEq

/-- The kinds of types. -/
inductive TypeKind where
  | classType
  | interfaceType
  | enumType
deriving DecidableEq

/-- A type with the members that it declares. -/
structure TypeDecl where
  name : Text
  kind : TypeKind := .classType
  supertypes : List Text := []
  methods : List Method := []
  fields : List Field := []
  constructors : List Constructor := []
deriving DecidableEq

/-- What can be called: a method or a constructor. -/
inductive Executable where
  | method (method : Method)
  | constructor (constructor : Constructor)
deriving DecidableEq

/-- The types of parameters. -/
def parameterTypes (parameters : List Parameter) : List Text :=
  parameters.map (·.type)

/-- The signature with modifiers, result, declaring type and parameter types. -/
def Method.signature (m : Method) : Text :=
  (if m.isPublic then "public " else "") ++ (if m.isStatic then "static " else "") ++
    m.returnType ++ " " ++ m.declaringType ++ "." ++ m.name ++ "(" ++
    Text.join "," (parameterTypes m.parameters) ++ ")"

/-- The signature with modifiers, declaring type and parameter types. -/
def Constructor.signature (c : Constructor) : Text :=
  (if c.isPublic then "public " else "") ++ c.declaringType ++ "(" ++
    Text.join "," (parameterTypes c.parameters) ++ ")"

namespace Executable

/-- The parameters. -/
def parameters : Executable → List Parameter
  | method m => m.parameters
  | constructor c => c.parameters

/-- The signature. -/
def signature : Executable → Text
  | method m => m.signature
  | constructor c => c.signature

/-- Whether both are methods or both constructors, of one signature. -/
def sameSignature : Executable → Executable → Bool
  | method a, method b => a.signature = b.signature
  | constructor a, constructor b => a.signature = b.signature
  | _, _ => false

end Executable

/-- The declaring type of a member, which is the type that lists it unless it names another. -/
def claim (type declaringType : Text) : Text :=
  if declaringType = "" then type else declaringType

namespace TypeDecl

/-- The type with every member's declaring type filled in. -/
def claimed (t : TypeDecl) : TypeDecl :=
  { t with
    methods := t.methods.map fun m => { m with declaringType := claim t.name m.declaringType }
    fields := t.fields.map fun f => { f with declaringType := claim t.name f.declaringType }
    constructors :=
      t.constructors.map fun c => { c with declaringType := claim t.name c.declaringType } }

/-- Whether the type is an enumeration. -/
def isEnum (t : TypeDecl) : Bool :=
  t.kind = .enumType

/-- The name without qualification. -/
def simpleName (t : TypeDecl) : Text :=
  Program.simpleName t.name

@[simp] theorem name_claimed (t : TypeDecl) : t.claimed.name = t.name := rfl

theorem claim_claim (type declaringType : Text) :
    claim type (claim type declaringType) = claim type declaringType := by
  simp only [claim]
  split
  · split <;> rfl
  · rfl

/-- Claiming members twice is claiming them once. -/
theorem claimed_claimed (t : TypeDecl) : t.claimed.claimed = t.claimed := by
  simp [claimed, claim_claim, Function.comp_def]

end TypeDecl

end ProseGuard.Program
