import ProseGuard.Proofs.Guard.ReadBack

/-!
# Propositions and their denials

What becomes of a condition where the proposition is denied. A predicate is denied of a subject
exactly where it can be stated of it (`condition?_true`), because the one condition that is left out
is left out before it is negated. So a proposition and its denial speak of the same subjects, and
the condition of the one joins the negations of what the condition of the other joins:
`denied_operand_by_operand`.
-/

namespace ProseGuard

open Comment (Member Proposition)
open Candidate (Element)

/-- The proposition of the same subject and predicate, denied or not. -/
def Comment.Proposition.withNegation (p : Proposition) (negated : Bool) : Proposition :=
  { p with negated := negated }

namespace Context

/-- Different conditions have different negations. -/
theorem negated_inj {a b : Text} (h : negated a = negated b) : a = b :=
  List.append_cancel_left (List.append_cancel_right h)

variable {ctx : Context} {member : Member} {p : Proposition} {subjects : List Element}

/-! ## One subject -/

/-- A predicate is denied of a subject by the negation of what it states of it. -/
theorem condition?_true (ctx : Context) (member : Member) (e : Element) (predicate : Text) :
    ctx.condition? member e predicate true =
      (ctx.condition? member e predicate false).map negated := by
  unfold condition?
  cases ctx.statement? member e predicate with
  | none => rfl
  | some condition =>
      simp only []
      split
      · rfl
      · rfl

/-- That the object itself is null is never stated. -/
theorem ne_degenerate_of_condition {e : Element} {predicate condition : Text}
    (h : ctx.condition? member e predicate false = some condition) :
    condition ≠ ctx.receiver ++ "==null" := by
  unfold condition? at h
  cases hstated : ctx.statement? member e predicate with
  | none => simp [hstated] at h
  | some stated =>
      rw [hstated] at h
      simp only [] at h
      split at h
      · exact nomatch h
      · next hne =>
        obtain rfl : stated = condition := Option.some.inj h
        exact hne

/-! ## All subjects -/

/-- What denies a proposition of its subjects are the negations of what it states of them. -/
theorem stated_denied_iff {denials : List Text} :
    ctx.Stated member (p.withNegation true) subjects denials ↔
      ∃ operands, ctx.Stated member (p.withNegation false) subjects operands ∧
        denials = operands.map negated := by
  have hdenied : ∀ es : List Element,
      (es.mapM fun e => ctx.condition? member e p.predicate true) =
        (es.mapM fun e => ctx.condition? member e p.predicate false).map (List.map negated) := by
    intro es
    simp only [condition?_true, Run.mapM_option_map]
  constructor
  · intro h
    obtain ⟨pool, hpool, hnamed, hdenials⟩ := stated_iff.1 h
    obtain ⟨operands, hoperands, rfl⟩ :=
      Option.map_eq_some_iff.1 ((hdenied subjects).symm.trans hdenials)
    exact ⟨operands, stated_iff.2 ⟨pool, hpool, hnamed, hoperands⟩, rfl⟩
  · rintro ⟨operands, h, rfl⟩
    obtain ⟨pool, hpool, hnamed, hoperands⟩ := stated_iff.1 h
    refine stated_iff.2 ⟨pool, hpool, hnamed, (hdenied subjects).trans ?_⟩
    exact Option.map_eq_some_iff.2 ⟨operands, hoperands, rfl⟩

/-- No proposition states of a subject that the object itself is null. -/
theorem Stated.ne_degenerate {operands : List Text}
    (h : ctx.Stated member (p.withNegation false) subjects operands) {c : Text}
    (hc : c ∈ operands) : c ≠ ctx.receiver ++ "==null" := by
  obtain ⟨e, -, hanswer⟩ := Run.exists_of_mem_right h.answers hc
  rw [result_matchPredicate, Except.ok.injEq] at hanswer
  exact ne_degenerate_of_condition hanswer

/-- A proposition has a condition exactly where it states one of each of its subjects, of which
there is one at least. -/
theorem propositionCondition_eq_some_iff {condition : Text} :
    (ctx.propositionCondition member p).result = .ok (some condition) ↔
      ∃ subjects operands, ctx.Stated member p subjects operands ∧ subjects ≠ [] ∧
        condition = joined (subjectOperator p.subject) operands := by
  constructor
  · intro h
    obtain ⟨_, subjects, operands, -, -, hstated, hne, rfl⟩ := stated_of_propositionCondition h
    refine ⟨subjects, operands, hstated, ?_, rfl⟩
    rintro rfl
    exact hne (List.forall₂_nil_left_iff.1 hstated.answers)
  · rintro ⟨subjects, operands, hstated, hne, rfl⟩
    obtain ⟨pool, hpool, rfl, hoperands⟩ := stated_iff.1 hstated
    have hsome : ¬ (ctx.named pool p.subject).isEmpty := fun h => hne (List.isEmpty_iff.1 h)
    rw [result_propositionCondition, hpool, Run.ok_map, propositionCondition?, if_neg hsome,
      hoperands]
    rfl

/-- A proposition can be denied exactly if it has a condition, and it has one exactly if it states
one of each of its subjects. Its condition and that of its denial join by one operator what is said
of the same subjects in the same order, and what is said of a subject is denied by its negation. That
the object itself is null is neither stated nor denied. -/
theorem denied_operand_by_operand (ctx : Context) (member : Member) (p : Proposition) :
    ((∃ condition,
        (ctx.propositionCondition member (p.withNegation true)).result = .ok (some condition)) ↔
      ∃ condition,
        (ctx.propositionCondition member (p.withNegation false)).result = .ok (some condition)) ∧
    ((∃ condition,
        (ctx.propositionCondition member (p.withNegation false)).result = .ok (some condition)) ↔
      ∃ subjects operands, subjects ≠ [] ∧
        ctx.Stated member (p.withNegation false) subjects operands) ∧
    ∀ condition,
      (ctx.propositionCondition member (p.withNegation false)).result = .ok (some condition) →
      ∃ subjects operands, ctx.Stated member (p.withNegation false) subjects operands ∧
        ctx.Stated member (p.withNegation true) subjects (operands.map negated) ∧
        condition = joined (subjectOperator p.subject) operands ∧
        (ctx.propositionCondition member (p.withNegation true)).result =
          .ok (some (joined (subjectOperator p.subject) (operands.map negated))) ∧
        ∀ c ∈ operands, c ≠ ctx.receiver ++ "==null" ∧
          negated c ≠ "(" ++ (ctx.receiver ++ "==null") ++ ") == false" := by
  have hboth : ∀ {subjects : List Element} {operands : List Text}, subjects ≠ [] →
      ctx.Stated member (p.withNegation false) subjects operands →
      (ctx.propositionCondition member (p.withNegation true)).result =
        .ok (some (joined (subjectOperator p.subject) (operands.map negated))) := by
    intro subjects operands hne hstated
    have hdenied := stated_denied_iff.2 ⟨operands, hstated, rfl⟩
    exact propositionCondition_eq_some_iff.2 ⟨subjects, _, hdenied, hne, rfl⟩
  refine ⟨⟨?_, ?_⟩, ⟨?_, ?_⟩, ?_⟩
  · rintro ⟨condition, h⟩
    obtain ⟨subjects, denials, hdenied, hne, -⟩ := propositionCondition_eq_some_iff.1 h
    obtain ⟨operands, hstated, -⟩ := stated_denied_iff.1 hdenied
    exact ⟨_, propositionCondition_eq_some_iff.2 ⟨subjects, operands, hstated, hne, rfl⟩⟩
  · rintro ⟨condition, h⟩
    obtain ⟨subjects, operands, hstated, hne, -⟩ := propositionCondition_eq_some_iff.1 h
    exact ⟨_, hboth hne hstated⟩
  · rintro ⟨condition, h⟩
    obtain ⟨subjects, operands, hstated, hne, -⟩ := propositionCondition_eq_some_iff.1 h
    exact ⟨subjects, operands, hne, hstated⟩
  · rintro ⟨subjects, operands, hne, hstated⟩
    exact ⟨_, propositionCondition_eq_some_iff.2 ⟨subjects, operands, hstated, hne, rfl⟩⟩
  · intro condition h
    obtain ⟨subjects, operands, hstated, hne, hcondition⟩ := propositionCondition_eq_some_iff.1 h
    refine ⟨subjects, operands, hstated, stated_denied_iff.2 ⟨operands, hstated, rfl⟩, hcondition,
      hboth hne hstated, fun c hc => ?_⟩
    have hsaid : c ≠ ctx.receiver ++ "==null" := hstated.ne_degenerate hc
    exact ⟨hsaid, fun hdenied => hsaid (negated_inj hdenied)⟩

/-- That either bound is positive is denied bound by bound. -/
theorem denied_operand_by_operand_rangeMember :
    (rangeContext.propositionCondition rangeMember
        (Proposition.withNegation ⟨"either high", "positive", false, "positive"⟩ false)).result =
          .ok (some "(low>0) || (high>0)") ∧
      (rangeContext.propositionCondition rangeMember
        (Proposition.withNegation ⟨"either high", "positive", false, "positive"⟩ true)).result =
          .ok (some "((low>0) == false) || ((high>0) == false)") := by
  have hplain : (rangeContext.propositionCondition rangeMember
      (Proposition.withNegation ⟨"either high", "positive", false, "positive"⟩ false)).result =
        .ok (some "(low>0) || (high>0)") := by
    rw [result_propositionCondition, collect_rangeMember, Run.ok_map]
    exact congrArg Except.ok (by decide)
  obtain ⟨-, -, hjoined⟩ := denied_operand_by_operand rangeContext rangeMember
    ⟨"either high", "positive", false, "positive"⟩
  obtain ⟨subjects, operands, hstated, -, -, hdenied, -⟩ := hjoined _ hplain
  obtain ⟨pool, hpool, rfl, hoperands⟩ := stated_iff.1 hstated
  obtain rfl : rangePool = pool := Except.ok.inj (collect_rangeMember.symm.trans hpool)
  obtain rfl : [("low>0" : Text), "high>0"] = operands := by
    refine Option.some.inj (Eq.trans ?_ hoperands)
    decide
  exact ⟨hplain, hdenied⟩

end Context

end ProseGuard
