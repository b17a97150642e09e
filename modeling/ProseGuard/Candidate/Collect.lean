import ProseGuard.Candidate.Pool
import ProseGuard.Comment.Member
import ProseGuard.Comment.Modal
import ProseGuard.Settings

/-!
# Collecting candidates

The pool of a documented member: its type, its parameters, the methods of the type that can be
called with what is in scope, and the fields. Prose often calls a parameter by another word than
its name; such words are mined from the comments on the parameter, and a word that the comments
on several parameters yield designates none of them. Main statement: `result_mine`, by which the
words of a parameter depend on the source's results alone.

Specification 4.2, the code element collector: `collect` is `Context.collect`, `mine_identifiers`
is `Context.mine`.
-/

namespace ProseGuard

open Program (Method Parameter Executable TypeDecl)
open Comment (Member)
open Candidate (Element Pool)

namespace Context

/-- The heads of the clauses in the comments on a parameter. -/
def mine (ctx : Context) (member : Member) (parameter : Text) : Run (List Text) := do
  let found ← (member.tagsFor parameter).mapM fun tag =>
    ctx.source.read (Comment.supplySubject parameter tag.comment)
  return Candidate.wordSet ((found.flatten.map (·.head)).filter fun word => word ≠ "")

/-- A parameter with the words mined for it. -/
structure MinedParameter where
  name : Text
  type : Text
  words : List Text

/-- How many parameters, told apart by their names, a word was mined for. -/
def producers (mined : List MinedParameter) (word : Text) : Nat :=
  (distinctBy (·.name) mined).countP fun p => p.words.contains word

/-- The words that were mined for one parameter only. -/
def ownWords (mined : List MinedParameter) (p : MinedParameter) : List Text :=
  p.words.filter fun word => producers mined word = 1

/-- The words that were mined for other parameters too. -/
def sharedWords (mined : List MinedParameter) (p : MinedParameter) : List Text :=
  p.words.filter fun word => producers mined word ≠ 1

/-- The element of the parameter at a place. -/
def parameterCandidate (ctx : Context) (mined : List MinedParameter) (p : MinedParameter)
    (index : Nat) : Element :=
  Candidate.parameterElement p.name index p.type (ownWords mined p)
    (ctx.settings.parameterStyle = .name)

/-- The parameters of the executable that stand in the source. -/
def writtenParameters (member : Member) (type : TypeDecl) (executable : Executable) :
    List Parameter :=
  executable.parameters.drop
    (if member.isConstructor then Program.hiddenParameters type else 0)

/-- The names of the parameters: as documented, else as the program has them. -/
def parameterNames (member : Member) (parameters : List Parameter) : List Text :=
  parameters.zipIdx.map fun (p, i) => (member.parameters[i]?.map (·.name)).getD p.name

/-- Mines words for each parameter. -/
def mineAll (ctx : Context) (member : Member) (parameters : List Parameter) :
    Run (List MinedParameter) :=
  ((parameterNames member parameters).zip parameters).mapM fun (name, p) => do
    return ⟨name, p.type, ← ctx.mine member name⟩

/-- The elements of the parameters; words that designate none of them are reported. -/
def parameterCandidates (ctx : Context) (mined : List MinedParameter) : Run (List Element) :=
  mined.zipIdx.mapM fun (p, i) => do
    let shared := sharedWords mined p
    if !shared.isEmpty then
      Run.report (.ambiguousWords p.name shared)
    return ctx.parameterCandidate mined p i

/-- The values in scope: each type with an expression for a value of it. -/
def argumentTable (ctx : Context) (type : TypeDecl) (parameters : List Element) :
    List (Text × Text) :=
  (type.name, ctx.receiver) ::
    parameters.filterMap fun e => e.valueType.map fun t => (t, e.expression)

/-- The expression of the first value in scope of a type. -/
def argument (table : List (Text × Text)) (type : Text) : Except Failure Text :=
  match table.lookup type with
  | some expression => .ok expression
  | none => .error (.fault (.noArgument type))

/-- The element for calling a method with values in scope; none if it is the documented member,
takes something that is not in scope, or needs an object that is still under construction. -/
def callCandidate? (ctx : Context) (isConstructor : Bool) (executable : Executable)
    (scope : List Text) (table : List (Text × Text)) (m : Method) :
    Except Failure (Option Element) :=
  let types := Program.parameterTypes m.parameters
  if Executable.sameSignature (.method m) executable || !types.all scope.contains then .ok none
  else do
    let args ← types.mapM (argument table)
    return if m.isStatic then some (Candidate.staticMethodElement m args)
      else if isConstructor then none
      else some (Candidate.methodElement m ctx.receiver args)

/-- The candidates of a member whose executable is known. -/
def collectFor (ctx : Context) (member : Member) (type : TypeDecl) (executable : Executable) :
    Run Pool := do
  let start ← Pool.empty.add (Candidate.typeElement type ctx.receiver)
  let written := writtenParameters member type executable
  let mined ← ctx.mineAll member written
  let parameters ← ctx.parameterCandidates mined
  let scope := type.name :: Program.parameterTypes written
  let calls ← Run.ofResult ((ctx.program.methods type true).mapM
    (ctx.callCandidate? member.isConstructor executable scope (ctx.argumentTable type parameters)))
  let fields := (ctx.program.fields type true).map (Candidate.fieldElement · ctx.receiver)
  start.addAll (parameters ++ calls.filterMap id ++ fields)

/-- The candidates of a documented member; none if the program does not know it. -/
def collect (ctx : Context) (member : Member) : Run Pool :=
  match ctx.program.find? member.containingType with
  | none => do
    Run.report (.unknownContainer member.containingType member.signature)
    return .empty
  | some type =>
    match ctx.program.findExecutable? type member.name member.parameterTypes
        member.isConstructor with
    | none => do
      Run.report (.noExecutable member.signature)
      return .empty
    | some executable => ctx.collectFor member type executable

/-- The words mined depend on what the source results in, not on what it reports. -/
theorem result_mine (ctx : Context) (member : Member) (parameter : Text) :
    (ctx.mine member parameter).result =
      ((member.tagsFor parameter).mapM fun tag =>
        ctx.source.read (Comment.supplySubject parameter tag.comment)).result.map fun found =>
          Candidate.wordSet ((found.flatten.map (·.head)).filter fun word => word ≠ "") := by
  simp only [mine, Run.result_bind, Run.result_pure]
  cases (List.mapM (fun tag =>
    ctx.source.read (Comment.supplySubject parameter tag.comment))
      (member.tagsFor parameter)).result <;> rfl

end Context

end ProseGuard
