import ProseGuard.Guard.Match

/-!
# Conditions

Each comment on a parameter becomes a precondition, and each comment on an exception the condition
under which it is thrown. A proposition has a condition only if all that it says has one, and a tag
none of whose propositions has a condition has none. `Context.memberGuards` answers
all tags of a member in their order.

Specification 4.5, the translator: `translate_proposition` is `Context.propositionCondition`,
`translate_param_tag` is `Context.paramGuard`, `translate_throws_tag` is `Context.throwsGuard`, and
`translate` is `Context.memberGuards`.
-/

namespace ProseGuard

open Comment (Member ParamTag ThrowsTag Proposition)
open Candidate (Element)

/-- What a guard guards. -/
inductive GuardKind where
  | param
  | throws
deriving DecidableEq

/-- The word for a kind of guard. -/
def GuardKind.word : GuardKind → Text
  | param => "param"
  | throws => "throws"

/-- The guard of one tag. -/
structure TagGuard where
  kind : GuardKind
  /-- The parameter or the exception type. -/
  target : Text
  comment : Text
  condition : Option Text
deriving DecidableEq

/-- The guards of a member's tags. -/
structure MemberGuards where
  /-- The member's signature. -/
  member : Text
  preconditions : List TagGuard
  throws : List TagGuard
deriving DecidableEq

/-- Writes a guard. -/
def TagGuard.toJson (g : TagGuard) : Json :=
  .object [
    ("kind", .string g.kind.word),
    ("target", .string g.target),
    ("comment", .string g.comment),
    ("condition", .optionalString g.condition)]

/-- Writes the guards of a member. -/
def MemberGuards.toJson (t : MemberGuards) : Json :=
  .object [
    ("member", .string t.member),
    ("preconditions", .array (t.preconditions.map TagGuard.toJson)),
    ("throws", .array (t.throws.map TagGuard.toJson))]

/-- Conditions joined by an operator, each in parentheses; a single one stands as it is. -/
def joined (operator : Text) : List Text → Text
  | [condition] => condition
  | conditions =>
    Text.join (" " ++ operator ++ " ") (conditions.map fun c => "(" ++ c ++ ")")

/-- The operator that joins what is said of several subjects. -/
def subjectOperator (subject : Text) : Text :=
  if ("either " : Text).isPrefixOf subject then "||" else "&&"

/-- The words that may lead a comment on an exception, with the blanks around them left out. -/
def conditionLeads : List Text := ["if", "when", "whenever"]

/-- Whether a character is the given small letter, case aside. The letter i has two more forms,
one dotted and one not. -/
def isLetter (letter c : Point) : Bool :=
  c.asciiLower = letter || (letter = 'i' && (c = 'İ' || c = 'ı'))

/-- What follows a word at the start of a text, case aside. -/
def afterWord? : Text → Text → Option (Text)
  | [], text => some text
  | _ :: _, [] => none
  | l :: ls, c :: cs => if isLetter l c then afterWord? ls cs else none

/-- The comment on an exception without a leading "if", "when" or "whenever". -/
def withoutLead (comment : Text) : Text :=
  let text := comment.dropWhile Text.isBlank
  let rest := conditionLeads.findSome? fun lead =>
    match afterWord? lead text with
    | some (c :: cs) => if Text.isBlank c then some (cs.dropWhile Text.isBlank) else none
    | _ => none
  rest.getD comment

namespace Context

/-- The conditions that a proposition states of its subjects; none if one of them has none. -/
def conditionsOf (ctx : Context) (member : Member) (p : Proposition) :
    List Element → Run (Option (List Text))
  | [] => pure (some [])
  | subject :: subjects => do
    match ← ctx.matchPredicate member subject p.predicate p.negated with
    | none =>
      Run.report (.unmatchedPredicate p.predicate subject.expression)
      return none
    | some condition => return (← ctx.conditionsOf member p subjects).map (condition :: ·)

/-- The condition that a proposition states. -/
def propositionCondition (ctx : Context) (member : Member) (p : Proposition) :
    Run (Option Text) := do
  let subjects ← ctx.matchSubject p.subject member
  if subjects.isEmpty then
    Run.report (.unmatchedSubject p.subject member.signature)
    return none
  else return (← ctx.conditionsOf member p subjects).map (joined (subjectOperator p.subject))

/-- The conditions that a comment states, proposition by proposition. -/
def conditions (ctx : Context) (member : Member) (comment : Text) : Run (List Text) := do
  let found ← ctx.source.read comment
  let stated ← (found.filter fun p => !p.predicate.isEmpty).mapM (ctx.propositionCondition member)
  return stated.filterMap id

/-- The condition that a comment states. -/
def textCondition (ctx : Context) (member : Member) (comment : Text) : Run (Option Text) := do
  let conditions ← ctx.conditions member comment
  return if conditions.isEmpty then none else some (joined "&&" conditions)

/-- The guard of a parameter tag. -/
def paramGuard (ctx : Context) (member : Member) (tag : ParamTag) : Run TagGuard := do
  let text := Comment.supplySubject tag.parameter tag.comment
  return ⟨.param, tag.parameter, tag.comment, ← ctx.textCondition member text⟩

/-- The guard of a throws tag. -/
def throwsGuard (ctx : Context) (member : Member) (tag : ThrowsTag) : Run TagGuard := do
  return ⟨.throws, tag.exception, tag.comment,
    ← ctx.textCondition member (withoutLead tag.comment)⟩

/-- The guards of all tags of a member. -/
def memberGuards (ctx : Context) (member : Member) : Run MemberGuards := do
  let preconditions ← member.paramTags.mapM (ctx.paramGuard member)
  let throws ← member.throwsTags.mapM (ctx.throwsGuard member)
  return ⟨member.signature, preconditions, throws⟩

end Context

end ProseGuard
