import ProseGuard.Proofs.Candidate.Collect
import ProseGuard.Proofs.Candidate.Nearest
import ProseGuard.Proofs.Guard.Operands
import ProseGuard.Proofs.Guard.Outcome

/-!
# What a condition joins

A proposition about several subjects and a comment with several propositions become one condition.
As long as what the predicates state is balanced, its parts can be read off its text again. Main
statement: `operands_of_conditions`.
-/

namespace ProseGuard.Context

open Comment (Member Proposition)
open Candidate (Element Pool)

/-- The subjects that a proposition names and, one by one, the conditions that its predicate states
of them. -/
structure Stated (ctx : Context) (member : Member) (p : Proposition) (subjects : List Element)
    (conditions : List Text) : Prop where
  named : (ctx.matchSubject p.subject member).result = .ok subjects
  answers : List.Forall₂ (fun e c =>
    (ctx.matchPredicate member e p.predicate p.negated).result = .ok (some c)) subjects conditions

/-- What the proposition states of its subjects, if it states a condition of each, is balanced. -/
def StatesBalanced (ctx : Context) (member : Member) (p : Proposition) : Prop :=
  ∀ subjects conditions, ctx.Stated member p subjects conditions → ∀ c ∈ conditions, c.Balanced

variable {ctx : Context} {member : Member} {p : Proposition}

/-- With the candidates known, the subjects are those named among them. -/
theorem stated_iff {subjects : List Element} {conditions : List Text} :
    ctx.Stated member p subjects conditions ↔
      ∃ pool, (ctx.collect member).result = .ok pool ∧ subjects = ctx.named pool p.subject ∧
        subjects.mapM (fun e => ctx.condition? member e p.predicate p.negated) =
          some conditions := by
  have hanswers : List.Forall₂ (fun e c =>
      (ctx.matchPredicate member e p.predicate p.negated).result = .ok (some c))
        subjects conditions ↔
      subjects.mapM (fun e => ctx.condition? member e p.predicate p.negated) =
        some conditions := by
    simp only [Run.mapM_eq_some_iff, result_matchPredicate, Except.ok.injEq]
  constructor
  · rintro ⟨hnamed, hstated⟩
    rw [result_matchSubject] at hnamed
    cases hpool : (ctx.collect member).result with
    | error e => simp [hpool] at hnamed
    | ok pool =>
        rw [hpool, Run.ok_map] at hnamed
        exact ⟨pool, rfl, (Except.ok.inj hnamed).symm, hanswers.1 hstated⟩
  · rintro ⟨pool, hpool, rfl, hstated⟩
    refine ⟨?_, hanswers.2 hstated⟩
    rw [result_matchSubject, hpool]
    rfl

/-- A condition of a proposition joins what is stated of its subjects. -/
theorem stated_of_propositionCondition {condition : Text}
    (h : (ctx.propositionCondition member p).result = .ok (some condition)) :
    ∃ pool subjects conditions, (ctx.collect member).result = .ok pool ∧
      subjects.Sublist pool.elements ∧ ctx.Stated member p subjects conditions ∧
      conditions ≠ [] ∧ condition = joined (subjectOperator p.subject) conditions := by
  rw [result_propositionCondition] at h
  cases hpool : (ctx.collect member).result with
  | error e => simp [hpool] at h
  | ok pool =>
      rw [hpool, Run.ok_map, Except.ok.injEq, propositionCondition?] at h
      by_cases hnone : (ctx.named pool p.subject).isEmpty
      · simp [hnone] at h
      · rw [if_neg hnone] at h
        obtain ⟨conditions, hconditions, rfl⟩ := Option.map_eq_some_iff.1 h
        have hlength := (Run.mapM_eq_some_iff.1 hconditions).length_eq
        refine ⟨pool, _, conditions, rfl, ?_, stated_iff.2 ⟨pool, hpool, rfl, hconditions⟩, ?_, rfl⟩
        · rw [named, Candidate.nearest_eq]
          exact List.filter_sublist
        · rintro rfl
          exact hnone (List.isEmpty_iff.2 (List.eq_nil_of_length_eq_zero hlength))

/-- No operator between subjects holds a parenthesis. -/
theorem isFlat_subjectOperator (subject : Text) : (subjectOperator subject).IsFlat := by
  unfold subjectOperator
  split
  · decide
  · decide

/-- A proposition that states balanced conditions has a balanced one. -/
theorem balanced_of_propositionCondition {condition : Text}
    (hbalanced : ctx.StatesBalanced member p)
    (h : (ctx.propositionCondition member p).result = .ok (some condition)) :
    condition.Balanced := by
  obtain ⟨_, _, conditions, -, -, hstated, hne, rfl⟩ := stated_of_propositionCondition h
  exact balanced_joined (isFlat_subjectOperator p.subject) hne (hbalanced _ _ hstated)

/-- The conditions of a comment are joined in the order of its propositions. -/
theorem result_textCondition {comment : Text} {found : List Proposition}
    {answers : List (Option Text)} (hread : (ctx.source.read comment).result = .ok found)
    (hanswers : List.Forall₂ (fun p answer =>
      (ctx.propositionCondition member p).result = .ok answer)
        (found.filter fun p => !p.predicate.isEmpty) answers) :
    (ctx.textCondition member comment).result =
      .ok (if (answers.filterMap id).isEmpty then none
        else some (joined "&&" (answers.filterMap id))) := by
  have hstated := Run.mapM_eq_ok_iff.2 hanswers
  rw [textCondition, conditions]
  simp only [Run.result_bind, hread, Run.ok_bind, Run.result_mapM, hstated, Run.result_pure]

/-- A comment that has a condition joins what its propositions state. -/
theorem answers_of_textCondition_eq_some {comment condition : Text} {found : List Proposition}
    (hread : (ctx.source.read comment).result = .ok found)
    (h : (ctx.textCondition member comment).result = .ok (some condition)) :
    ∃ answers, List.Forall₂ (fun p answer =>
        (ctx.propositionCondition member p).result = .ok answer)
          (found.filter fun p => !p.predicate.isEmpty) answers ∧
      answers.filterMap id ≠ [] ∧ condition = joined "&&" (answers.filterMap id) := by
  cases hall : (found.filter fun p => !p.predicate.isEmpty).mapM fun p =>
      (ctx.propositionCondition member p).result with
  | error e =>
      rw [textCondition, conditions] at h
      simp [Run.result_bind, hread, Run.result_mapM, hall] at h
  | ok answers =>
      have hanswers := Run.mapM_eq_ok_iff.1 hall
      rw [result_textCondition hread hanswers, Except.ok.injEq] at h
      split at h
      · exact nomatch h
      · next hsome =>
        exact ⟨answers, hanswers, fun hnil => hsome (List.isEmpty_iff.2 hnil),
          (Option.some.inj h).symm⟩

/-- What a condition joins can be read off its text, as long as the predicates state balanced
conditions. A proposition that has a condition states one of each subject, and the condition, itself
balanced, falls apart into these if the subjects are several. A comment of whose propositions several
have a condition has one that falls apart into theirs, in their order. -/
theorem operands_of_conditions (ctx : Context) (member : Member) :
    (∀ (p : Proposition) (condition : Text), ctx.StatesBalanced member p →
      (ctx.propositionCondition member p).result = .ok (some condition) →
      condition.Balanced ∧
      ∃ pool subjects conditions, (ctx.collect member).result = .ok pool ∧
        subjects.Sublist pool.elements ∧ ctx.Stated member p subjects conditions ∧
        (2 ≤ subjects.length →
          operands? (subjectOperator p.subject) condition = some conditions)) ∧
    (∀ (comment : Text) (found : List Proposition) (answers : List (Option Text)),
      (ctx.source.read comment).result = .ok found →
      List.Forall₂ (fun p answer => (ctx.propositionCondition member p).result = .ok answer)
        (found.filter fun p => !p.predicate.isEmpty) answers →
      (∀ p ∈ found, p.predicate ≠ [] → ctx.StatesBalanced member p) →
      2 ≤ (answers.filterMap id).length →
      ∃ condition, (ctx.textCondition member comment).result = .ok (some condition) ∧
        operands? "&&" condition = some (answers.filterMap id)) := by
  constructor
  · intro p condition hbalanced h
    refine ⟨balanced_of_propositionCondition hbalanced h, ?_⟩
    obtain ⟨pool, subjects, conditions, hpool, hsub, hstated, -, rfl⟩ :=
      stated_of_propositionCondition h
    refine ⟨pool, subjects, conditions, hpool, hsub, hstated, fun htwo => ?_⟩
    rw [hstated.answers.length_eq] at htwo
    exact operands?_joined (isFlat_subjectOperator p.subject) htwo (hbalanced _ _ hstated)
  · intro comment found answers hread hanswers hbalanced htwo
    have hsome : (answers.filterMap id).isEmpty = false := by
      cases hnil : answers.filterMap id with
      | nil => exact absurd (hnil ▸ htwo) (by decide)
      | cons c cs => rfl
    refine ⟨_, ?_, operands?_joined (by decide) htwo fun c hc => ?_⟩
    · rw [result_textCondition hread hanswers, hsome, if_neg Bool.false_ne_true]
    · -- every condition is the answer to one of the propositions
      obtain ⟨answer, hanswer, rfl⟩ := List.mem_filterMap.1 hc
      obtain ⟨p, hp, hcondition⟩ := Run.exists_of_mem_right hanswers hanswer
      obtain ⟨hfound, hsaid⟩ := List.mem_filter.1 hp
      refine balanced_of_propositionCondition (hbalanced p hfound ?_) hcondition
      intro hnone
      simp [hnone] at hsaid

/-- What the sentences "either high is positive" and "low is not negative" say. -/
def rangePropositions : List Proposition := [
  ⟨"either high", "positive", false, "positive"⟩, ⟨"low", "negative", true, "negative"⟩]

theorem statesBalanced_rangePropositions :
    ∀ p ∈ rangePropositions, rangeContext.StatesBalanced rangeMember p := by
  intro p hp subjects conditions hstated
  obtain ⟨pool, hpool, rfl, hconditions⟩ := stated_iff.1 hstated
  obtain rfl : rangePool = pool := Except.ok.inj (collect_rangeMember.symm.trans hpool)
  have hall : ∀ p ∈ rangePropositions, ∀ c ∈ ((rangeContext.named rangePool p.subject).mapM fun e =>
      rangeContext.condition? rangeMember e p.predicate p.negated).getD [], c.Balanced := by
    decide
  intro c hc
  exact hall p hp c (by rw [hconditions]; exact hc)

/-- Of a comment that says one thing of either bound and another of the lower one, both conditions
can be read back, and from the first what it says of each bound. -/
theorem operands_of_conditions_rangeMember :
    (rangeContext.source.read "either high is positive; low is not negative").result =
      .ok rangePropositions ∧
    (∀ p ∈ rangePropositions, rangeContext.StatesBalanced rangeMember p) ∧
    (∃ condition, (rangeContext.textCondition rangeMember
        "either high is positive; low is not negative").result = .ok (some condition) ∧
      operands? "&&" condition =
        some [("(low>0) || (high>0)" : Text), "(low<0) == false"]) ∧
    operands? "||" "(low>0) || (high>0)" = some [("low>0" : Text), "high>0"] := by
  have hread : (rangeContext.source.read "either high is positive; low is not negative").result =
      .ok rangePropositions := congrArg Except.ok (by decide)
  have hfirst : (rangeContext.propositionCondition rangeMember
      ⟨"either high", "positive", false, "positive"⟩).result =
        .ok (some "(low>0) || (high>0)") := by
    rw [result_propositionCondition, collect_rangeMember, Run.ok_map]
    exact congrArg Except.ok (by decide)
  have hsecond : (rangeContext.propositionCondition rangeMember
      ⟨"low", "negative", true, "negative"⟩).result = .ok (some "(low<0) == false") := by
    rw [result_propositionCondition, collect_rangeMember, Run.ok_map]
    exact congrArg Except.ok (by decide)
  obtain ⟨hproposition, hcomment⟩ := operands_of_conditions rangeContext rangeMember
  refine ⟨hread, statesBalanced_rangePropositions, ?_, ?_⟩
  · refine hcomment _ _ [some "(low>0) || (high>0)", some "(low<0) == false"] hread ?_
      (fun p hp _ => statesBalanced_rangePropositions p hp) (by decide)
    exact .cons hfirst (.cons hsecond .nil)
  · obtain ⟨-, pool, subjects, conditions, -, -, hstated, hoperands⟩ := hproposition _ _
      (statesBalanced_rangePropositions _ List.mem_cons_self) hfirst
    obtain ⟨pool, hpool, rfl, hconditions⟩ := stated_iff.1 hstated
    obtain rfl : rangePool = pool := Except.ok.inj (collect_rangeMember.symm.trans hpool)
    obtain rfl : [("low>0" : Text), "high>0"] = conditions := by
      refine Option.some.inj (Eq.trans ?_ hconditions)
      decide
    exact hoperands (by decide)

end ProseGuard.Context
