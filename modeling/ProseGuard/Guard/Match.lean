import ProseGuard.Candidate.Collect
import ProseGuard.Candidate.Nearest
import ProseGuard.Guard.Suffix

/-!
# Matching

From the subject of a proposition to the elements that it names, and from a predicate about an
element to a condition: a literal predicate becomes a comparison, any other the nearest boolean
member that can be reached from the element. Main statement: `result_matchSubject`, by which the
matched elements are the nearest of the member's candidates.

Specification 4.3 and 4.4, the two matchers: `match_subject` is `Context.matchSubject`,
`match_predicate` is `Context.matchPredicate`, `predicate_candidates` is
`Context.predicateCandidates`, and the secondary pool is `Context.secondaryPool`, made of
`Context.booleanElements` and `Context.staticTests`.
-/

namespace ProseGuard

open Program (Method Field)
open Comment (Member)
open Candidate (Element Kind Pool)
open Guard (Suffix)

namespace Context

/-- Words that may lead the subject of a proposition without naming anything. -/
def subjectLeads : List Text := ["either ", "both "]

/-- The subject without such a word and without blanks around it. -/
def cleanSubject (subject : Text) : Text :=
  Text.trimmed ((subjectLeads.findSome? fun lead => Text.after? lead subject).getD subject)

/-- The candidates of a member that a subject names: the nearest ones within the threshold. -/
def matchSubject (ctx : Context) (subject : Text) (member : Member) : Run (List Element) := do
  let pool ← ctx.collect member
  return Candidate.nearest (Element.distance (cleanSubject subject)) ctx.settings.threshold
    pool.elements

/-- What can be asked of an array: whether it is empty, and how long it is. -/
def arrayMembers (receiver : Text) : List Element :=
  [Candidate.derivedElement (receiver ++ ".length==0") "isEmpty",
    Candidate.derivedElement (receiver ++ ".length") "length"]

/-- The boolean fields and the boolean methods without parameters of a type. -/
def booleanMembers (program : Program) (type : Program.TypeDecl) (receiver : Text) :
    List Element :=
  ((program.fields type true).filter fun f => Program.isBooleanName f.type).map
      (Candidate.fieldElement · receiver) ++
    ((program.methods type true).filter fun m =>
      m.parameters.isEmpty && Program.isBooleanName m.returnType).map
      (Candidate.methodElement · receiver [])

/-- The elements that can be asked of a value of the named type. -/
def booleanElements (ctx : Context) (receiver : Text) (typeName : Option Text) :
    Run (List Element) :=
  match typeName with
  | none => pure []
  | some name =>
    if name = "" then pure []
    else if Program.isArrayName name then pure (arrayMembers receiver)
    else match ctx.program.find? name with
      | none => do
        Run.report (.unknownMemberType name)
        return []
      | some type => pure (booleanMembers ctx.program type receiver)

/-- Whether a static method tells something about a value of the given type alone. -/
def testsValue (valueType : Option Text) (m : Method) : Bool :=
  m.isStatic && m.parameters.length ≤ 1 && Program.isBooleanName m.returnType &&
    (Program.parameterTypes m.parameters).all fun t => some t = valueType

/-- The static boolean methods of the containing type that take the parameter or nothing. -/
def staticTests (ctx : Context) (containingType : Text) (parameter : Element) : List Element :=
  match ctx.program.find? containingType with
  | none => []
  | some type =>
    ((ctx.program.methods type true).filter (testsValue parameter.valueType)).map fun m =>
      Candidate.staticMethodElement m (if m.parameters.isEmpty then [] else [parameter.expression])

/-- The boolean elements that can be reached from a subject. -/
def secondaryPool (ctx : Context) (member : Member) (subject : Element) : Run (List Element) :=
  match subject.kind with
  | .parameter => do
    let members ← ctx.booleanElements subject.expression subject.valueType
    return distinctBy Element.identity
      (members ++ ctx.staticTests member.containingType subject)
  | .type | .method | .staticMethod => do
    let members ← ctx.booleanElements subject.expression subject.valueType
    return distinctBy Element.identity members
  | .field | .derived => pure []

/-- The boolean elements that a predicate about a subject names. -/
def predicateCandidates (ctx : Context) (member : Member) (subject : Element)
    (predicate : Text) : Run (List Element) := do
  let pool ← ctx.secondaryPool member subject
  return Candidate.nearest (Element.distance (Text.trimmed predicate)) ctx.settings.threshold pool

/-- The condition that a predicate states of a subject, degenerate ones among them. -/
def statedCondition? (ctx : Context) (member : Member) (subject : Element)
    (predicate : Text) : Run (Option Text) := do
  if Guard.reading predicate = .outOfRange then
    Run.report (.malformedLiteral (Text.trimmed predicate))
  match Suffix.ofPredicate? predicate with
  | some suffix => return some (subject.expression ++ suffix.text)
  | none =>
    let candidates ← ctx.predicateCandidates member subject predicate
    return candidates.head?.map (·.expression)

/-- The condition that says nothing: that the object itself is null. -/
def degenerateCondition (ctx : Context) : Text :=
  ctx.receiver ++ "==null"

/-- The negation of a condition. -/
def negated (condition : Text) : Text :=
  "(" ++ condition ++ ") == false"

/-- The condition that a predicate states of a subject, or denies of it. -/
def matchPredicate (ctx : Context) (member : Member) (subject : Element) (predicate : Text)
    (negate : Bool) : Run (Option Text) := do
  match ← ctx.statedCondition? member subject predicate with
  | none => return none
  | some condition =>
    if condition = ctx.degenerateCondition then
      Run.report (.degenerate condition)
      return none
    else return some (if negate then negated condition else condition)

/-- The matched elements are the nearest of the member's candidates. -/
theorem result_matchSubject (ctx : Context) (subject : Text) (member : Member) :
    (ctx.matchSubject subject member).result =
      (ctx.collect member).result.map fun pool =>
        Candidate.nearest (Element.distance (cleanSubject subject)) ctx.settings.threshold
          pool.elements := by
  simp only [matchSubject, Run.result_bind, Run.result_pure]
  cases (ctx.collect member).result <;> rfl

end Context

end ProseGuard
