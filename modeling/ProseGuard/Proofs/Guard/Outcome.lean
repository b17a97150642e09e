import ProseGuard.Guard.Condition
import ProseGuard.Proofs.Results

/-!
# Outcomes of matching

What matching results in once the candidates of a member are known. Neither looking for boolean
members nor putting conditions together can fail, so each of these runs results in a plain value:
`result_secondaryPool`, `result_matchPredicate` and `result_conditionsOf` name it. A proposition has
a condition whenever the candidates can be collected (`result_propositionCondition`).
-/

namespace ProseGuard.Context

open Comment (Member Proposition)
open Candidate (Element Pool)
open Guard (Suffix)

variable (ctx : Context) (member : Member)

/-- The elements that can be asked of a value of the named type. -/
def membersOf (receiver : Text) (typeName : Option Text) : List Element :=
  match typeName with
  | none => []
  | some name =>
    if name = "" then []
    else if Program.isArrayName name then arrayMembers receiver
    else match ctx.program.find? name with
      | none => []
      | some type => booleanMembers ctx.program type receiver

/-- Looking for what can be asked of a value never fails. -/
theorem result_booleanElements (receiver : Text) (typeName : Option Text) :
    (ctx.booleanElements receiver typeName).result = .ok (ctx.membersOf receiver typeName) := by
  unfold booleanElements membersOf
  cases typeName with
  | none => rfl
  | some name =>
      simp only []
      split
      · rfl
      · split
        · rfl
        · cases ctx.program.find? name <;> simp

/-- What can be asked of a value are the length of an array or the boolean members of its type. -/
theorem mem_membersOf_cases {ctx : Context} {receiver : Text} {typeName : Option Text} {e : Element}
    (h : e ∈ ctx.membersOf receiver typeName) :
    e ∈ arrayMembers receiver ∨ ∃ name type, typeName = some name ∧ name ≠ "" ∧
      Program.isArrayName name = false ∧ ctx.program.find? name = some type ∧
      e ∈ booleanMembers ctx.program type receiver := by
  unfold membersOf at h
  cases typeName with
  | none => exact absurd h List.not_mem_nil
  | some name =>
      simp only [] at h
      split at h
      · exact absurd h List.not_mem_nil
      · next hname =>
        split at h
        · exact .inl h
        · next hplain =>
          cases hfind : ctx.program.find? name with
          | none =>
              rw [hfind] at h
              exact absurd h List.not_mem_nil
          | some type =>
              rw [hfind] at h
              exact .inr ⟨name, type, rfl, hname, Bool.eq_false_iff.2 hplain, hfind, h⟩

/-- What can be asked of a value of a known type that is no array are its boolean members. -/
theorem membersOf_of_find? {ctx : Context} {receiver name : Text} {type : Program.TypeDecl}
    (hname : name ≠ "") (hplain : Program.isArrayName name = false)
    (hfind : ctx.program.find? name = some type) :
    ctx.membersOf receiver (some name) = booleanMembers ctx.program type receiver := by
  unfold membersOf
  simp only [if_neg hname, hplain, Bool.false_eq_true, if_false, hfind]

/-- The boolean elements that can be reached from a subject. -/
def reachable (subject : Element) : List Element :=
  match subject.kind with
  | .parameter => distinctBy Element.identity
      (ctx.membersOf subject.expression subject.valueType ++
        ctx.staticTests member.containingType subject)
  | .type | .method | .staticMethod =>
    distinctBy Element.identity (ctx.membersOf subject.expression subject.valueType)
  | .field | .derived => []

/-- Looking for boolean elements never fails. -/
theorem result_secondaryPool (subject : Element) :
    (ctx.secondaryPool member subject).result = .ok (ctx.reachable member subject) := by
  unfold secondaryPool reachable
  cases subject.kind <;> simp [result_booleanElements]

/-- The condition that a predicate states of a subject, degenerate ones among them. -/
def statement? (subject : Element) (predicate : Text) : Option Text :=
  match Suffix.ofPredicate? predicate with
  | some suffix => some (subject.expression ++ suffix.text)
  | none =>
    (Candidate.nearest (Element.distance (Text.trimmed predicate)) ctx.settings.threshold
      (ctx.reachable member subject)).head?.map (·.expression)

/-- Stating a predicate of a subject never fails. -/
theorem result_statedCondition (subject : Element) (predicate : Text) :
    (ctx.statedCondition? member subject predicate).result =
      .ok (ctx.statement? member subject predicate) := by
  unfold statedCondition? statement?
  by_cases hrange : Guard.reading predicate = .outOfRange <;>
    cases Suffix.ofPredicate? predicate <;>
    simp [hrange, predicateCandidates, result_secondaryPool]

/-- The condition that a predicate states of a subject, or denies of it; none if it says that the
object itself is null. -/
def condition? (subject : Element) (predicate : Text) (negate : Bool) : Option Text :=
  match ctx.statement? member subject predicate with
  | none => none
  | some condition =>
    if condition = ctx.degenerateCondition then none
    else some (if negate then negated condition else condition)

/-- Matching a predicate never fails. -/
theorem result_matchPredicate (subject : Element) (predicate : Text) (negate : Bool) :
    (ctx.matchPredicate member subject predicate negate).result =
      .ok (ctx.condition? member subject predicate negate) := by
  unfold matchPredicate condition?
  rw [Run.result_bind, result_statedCondition]
  cases ctx.statement? member subject predicate with
  | none => rfl
  | some condition =>
      simp only [Run.ok_bind]
      split
      · simp
      · rfl

/-- A proposition states a condition of all its subjects or none at all. -/
theorem result_conditionsOf (p : Proposition) (subjects : List Element) :
    (ctx.conditionsOf member p subjects).result =
      .ok (subjects.mapM fun e => ctx.condition? member e p.predicate p.negated) := by
  induction subjects with
  | nil => rfl
  | cons subject subjects ih =>
      unfold conditionsOf
      rw [Run.result_bind, result_matchPredicate, List.mapM_cons]
      cases ctx.condition? member subject p.predicate p.negated with
      | none => simp
      | some condition =>
          simp only [Run.ok_bind, Run.result_bind, Run.result_pure, ih]
          cases subjects.mapM fun e => ctx.condition? member e p.predicate p.negated <;> rfl

/-- The candidates in a pool that a subject names. -/
def named (pool : Pool) (subject : Text) : List Element :=
  Candidate.nearest (Element.distance (cleanSubject subject)) ctx.settings.threshold pool.elements

/-- The condition that a proposition states, the candidates being those of a pool. -/
def propositionCondition? (pool : Pool) (p : Proposition) : Option Text :=
  if (ctx.named pool p.subject).isEmpty then none
  else ((ctx.named pool p.subject).mapM fun e =>
    ctx.condition? member e p.predicate p.negated).map (joined (subjectOperator p.subject))

/-- A proposition whose subject names one candidate states what its predicate states of that. -/
theorem propositionCondition?_of_named {ctx : Context} {member : Member} {pool : Pool}
    (p : Proposition) {e : Element} (h : ctx.named pool p.subject = [e]) :
    ctx.propositionCondition? member pool p = ctx.condition? member e p.predicate p.negated := by
  rw [propositionCondition?, h, List.isEmpty_cons, if_neg Bool.false_ne_true, List.mapM_cons,
    List.mapM_nil]
  cases ctx.condition? member e p.predicate p.negated <;> rfl

/-- Translating a proposition fails only where collecting the candidates does. -/
theorem result_propositionCondition (p : Proposition) :
    (ctx.propositionCondition member p).result =
      (ctx.collect member).result.map fun pool => ctx.propositionCondition? member pool p := by
  unfold propositionCondition propositionCondition?
  rw [Run.result_bind, result_matchSubject]
  cases (ctx.collect member).result with
  | error e => rfl
  | ok pool =>
      simp only [Run.ok_map, Run.ok_bind]
      change Run.result (if (ctx.named pool p.subject).isEmpty then _ else _) = _
      split
      · rfl
      · simp [result_conditionsOf, named]

/-- With the candidates known, a comment states the conditions of its propositions in order. -/
theorem result_conditions_of_collect {pool : Pool} (h : (ctx.collect member).result = .ok pool)
    (comment : Text) :
    (ctx.conditions member comment).result = (ctx.source.read comment).result.map fun found =>
      (found.filter fun p => !p.predicate.isEmpty).filterMap
        (ctx.propositionCondition? member pool) := by
  unfold conditions
  rw [Run.result_bind]
  cases (ctx.source.read comment).result with
  | error e => rfl
  | ok found =>
      have hall : ∀ p ∈ found.filter fun p => !p.predicate.isEmpty,
          (ctx.propositionCondition member p).result =
            .ok (ctx.propositionCondition? member pool p) := by
        intro p _
        rw [result_propositionCondition, h]
        rfl
      simp only [Run.ok_bind, Run.ok_map, Run.result_bind, Run.result_pure, Run.result_mapM,
        Run.mapM_eq_ok_map hall, List.filterMap_map, Function.id_comp]

end ProseGuard.Context
