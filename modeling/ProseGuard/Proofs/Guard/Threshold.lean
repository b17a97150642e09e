import ProseGuard.Proofs.Candidate.Collect
import ProseGuard.Proofs.Candidate.Nearest
import ProseGuard.Proofs.Guard.Outcome

/-!
# Raising the threshold

Two searches for guards that differ in the distance threshold alone. They see the same candidates,
and where the lower threshold chooses any, the higher one chooses the same. So a condition that is
found stays as it is, and a higher threshold only adds conditions: `guards_of_raised_threshold`.
-/

namespace ProseGuard.Context

open Comment (Member Proposition ParamTag ThrowsTag)
open Candidate (Element Pool)
open Run (Related)

/-- The context with another distance threshold. -/
def withThreshold (ctx : Context) (threshold : Nat) : Context :=
  { ctx with settings := { ctx.settings with threshold := threshold } }

variable (ctx : Context) (member : Member) {low high : Nat}

/-- The candidates of a member do not depend on the threshold. -/
theorem collect_withThreshold (threshold : Nat) :
    (ctx.withThreshold threshold).collect member = ctx.collect member := rfl

/-- What can be asked of a subject does not depend on the threshold. -/
theorem reachable_withThreshold (threshold : Nat) (subject : Element) :
    (ctx.withThreshold threshold).reachable member subject = ctx.reachable member subject := rfl

/-- An answer that the second option keeps if the first has one. -/
def Kept (answer raised : Option Text) : Prop :=
  ∀ condition, answer = some condition → raised = some condition

/-- What a predicate states at a threshold, it states at every higher one. -/
theorem kept_statement (hle : low ≤ high) (subject : Element) (predicate : Text) :
    Kept ((ctx.withThreshold low).statement? member subject predicate)
      ((ctx.withThreshold high).statement? member subject predicate) := by
  intro condition h
  unfold statement? at h ⊢
  cases hsuffix : Guard.Suffix.ofPredicate? predicate with
  | some suffix => simpa [hsuffix] using h
  | none =>
      simp only [hsuffix, reachable_withThreshold] at h ⊢
      have hle' : (low : Int) ≤ high := by omega
      -- a member was chosen, so the lower threshold left some candidate
      rw [← h]
      congr 1
      refine congrArg List.head? (Candidate.nearest_of_raised hle' fun hnone => ?_)
      rw [hnone] at h
      exact nomatch h

/-- A condition that a predicate has at a threshold, it has at every higher one. -/
theorem kept_condition (hle : low ≤ high) (subject : Element) (predicate : Text) (negate : Bool) :
    Kept ((ctx.withThreshold low).condition? member subject predicate negate)
      ((ctx.withThreshold high).condition? member subject predicate negate) := by
  intro condition h
  unfold condition? at h ⊢
  cases hstated : (ctx.withThreshold low).statement? member subject predicate with
  | none => simp [hstated] at h
  | some stated =>
      -- neither the degenerate condition nor the negation depends on the threshold
      rw [ctx.kept_statement member hle subject predicate stated hstated]
      rw [hstated] at h
      exact h

/-- Where a list of answers is complete, the kept answers are the same list. -/
theorem mapM_of_kept {α : Type} {f g : α → Option Text} {as : List α} {bs : List Text}
    (hkept : ∀ a, Kept (f a) (g a)) (h : as.mapM f = some bs) : as.mapM g = some bs := by
  induction as generalizing bs with
  | nil => exact h
  | cons a as ih =>
      simp only [List.mapM_cons, Option.bind_eq_bind, Option.bind_eq_some_iff, Option.pure_def,
        Option.some.injEq] at h ⊢
      obtain ⟨b, hb, rest, hrest, rfl⟩ := h
      exact ⟨b, hkept a b hb, rest, ih hrest, rfl⟩

/-- A proposition keeps its condition: its subjects are the same, and each has the same one. -/
theorem kept_propositionCondition (hle : low ≤ high) (pool : Pool) (p : Proposition) :
    Kept ((ctx.withThreshold low).propositionCondition? member pool p)
      ((ctx.withThreshold high).propositionCondition? member pool p) := by
  intro condition h
  unfold propositionCondition? at h ⊢
  by_cases hnone : ((ctx.withThreshold low).named pool p.subject).isEmpty
  · simp [hnone] at h
  · -- the subjects are the same, since the lower threshold names some
    have hle' : (low : Int) ≤ high := by omega
    have hnamed : (ctx.withThreshold high).named pool p.subject =
        (ctx.withThreshold low).named pool p.subject :=
      Candidate.nearest_of_raised hle' fun hnil => hnone (List.isEmpty_iff.2 hnil)
    rw [if_neg hnone] at h
    rw [hnamed, if_neg hnone]
    obtain ⟨conditions, hconditions, rfl⟩ := Option.map_eq_some_iff.1 h
    rw [mapM_of_kept (fun e => ctx.kept_condition member hle e p.predicate p.negated) hconditions]
    rfl

/-- Two searches answer a proposition alike, the one with the higher threshold keeping what the
other finds. -/
theorem related_propositionCondition (hle : low ≤ high) (p : Proposition) :
    Related Kept ((ctx.withThreshold low).propositionCondition member p)
      ((ctx.withThreshold high).propositionCondition member p) := by
  unfold Related
  rw [result_propositionCondition, result_propositionCondition, collect_withThreshold,
    collect_withThreshold]
  cases (ctx.collect member).result with
  | error e => exact .inr ⟨e, rfl, rfl⟩
  | ok pool => exact .inl ⟨_, _, rfl, rfl, ctx.kept_propositionCondition member hle pool p⟩

/-- Answers that are kept stand, in order, among the answers that keep them. -/
theorem sublist_of_kept {answers raised : List (Option Text)}
    (h : List.Forall₂ Kept answers raised) :
    (answers.filterMap id).Sublist (raised.filterMap id) := by
  induction h with
  | nil => exact .slnil
  | @cons answer answer' answers raised hkept hrest ih =>
      cases answer with
      | none =>
          cases answer' with
          | none => exact ih
          | some condition => exact ih.cons condition
      | some condition =>
          rw [hkept condition rfl]
          exact ih.cons_cons condition

/-- The conditions of a comment at a threshold stand, in order, among those at a higher one. -/
theorem related_conditions (hle : low ≤ high) (comment : Text) :
    Related List.Sublist ((ctx.withThreshold low).conditions member comment)
      ((ctx.withThreshold high).conditions member comment) := by
  unfold conditions
  refine (Related.refl (fun _ => rfl) (ctx.source.read comment)).bind fun found _ hfound => ?_
  subst hfound
  refine (Related.mapM fun p _ => ctx.related_propositionCondition member hle p).bind
    fun answers raised hkept => ?_
  exact .inl ⟨_, _, rfl, rfl, sublist_of_kept hkept⟩

/-- A comment that has a condition at a threshold has one at every higher one. -/
theorem related_textCondition (hle : low ≤ high) (comment : Text) :
    Related (fun condition raised => condition.isSome → raised.isSome)
      ((ctx.withThreshold low).textCondition member comment)
      ((ctx.withThreshold high).textCondition member comment) := by
  refine (ctx.related_conditions member hle comment).bind fun conditions raised hsub => ?_
  refine .inl ⟨_, _, rfl, rfl, fun hsome => ?_⟩
  cases raised with
  | nil => rw [List.sublist_nil.1 hsub] at hsome; exact hsome
  | cons condition rest => rfl

/-- Raising the threshold only adds: every proposition keeps its condition, the conditions of every
tag stay in their order among those at the higher threshold, and a tag that has a condition keeps
having one. The two searches fail alike if they fail. -/
theorem guards_of_raised_threshold (hle : low ≤ high) :
    (∀ (p : Proposition) (condition : Text),
      ((ctx.withThreshold low).propositionCondition member p).result = .ok (some condition) →
        ((ctx.withThreshold high).propositionCondition member p).result = .ok (some condition)) ∧
    (∀ tag : ParamTag,
      Related List.Sublist
        ((ctx.withThreshold low).conditions member
          (Comment.supplySubject tag.parameter tag.comment))
        ((ctx.withThreshold high).conditions member
          (Comment.supplySubject tag.parameter tag.comment)) ∧
      Related (fun guard raised => guard.condition.isSome → raised.condition.isSome)
        ((ctx.withThreshold low).paramGuard member tag)
        ((ctx.withThreshold high).paramGuard member tag)) ∧
    (∀ tag : ThrowsTag,
      Related List.Sublist
        ((ctx.withThreshold low).conditions member (withoutLead tag.comment))
        ((ctx.withThreshold high).conditions member (withoutLead tag.comment)) ∧
      Related (fun guard raised => guard.condition.isSome → raised.condition.isSome)
        ((ctx.withThreshold low).throwsGuard member tag)
        ((ctx.withThreshold high).throwsGuard member tag)) := by
  refine ⟨fun p condition h => ?_, fun tag => ⟨?_, ?_⟩, fun tag => ⟨?_, ?_⟩⟩
  · rcases ctx.related_propositionCondition member hle p with
      ⟨answer, raised, hlow, hhigh, hkept⟩ | ⟨e, hlow, -⟩
    · rw [hhigh, hkept condition (Except.ok.inj (hlow.symm.trans h))]
    · exact nomatch hlow.symm.trans h
  · exact ctx.related_conditions member hle _
  · refine (ctx.related_textCondition member hle _).bind fun condition raised hsome => ?_
    exact .inl ⟨_, _, rfl, rfl, hsome⟩
  · exact ctx.related_conditions member hle _
  · refine (ctx.related_textCondition member hle _).bind fun condition raised hsome => ?_
    exact .inl ⟨_, _, rfl, rfl, hsome⟩

/-- What an exact name says of a lower bound, it says at a higher threshold too. -/
theorem guards_of_raised_threshold_rangeMember :
    0 ≤ 2 ∧
      ((rangeContext.withThreshold 0).propositionCondition rangeMember
        ⟨"low", "negative", true, "negative"⟩).result = .ok (some "(low<0) == false") ∧
      ((rangeContext.withThreshold 2).propositionCondition rangeMember
        ⟨"low", "negative", true, "negative"⟩).result = .ok (some "(low<0) == false") := by
  have hlow : ((rangeContext.withThreshold 0).propositionCondition rangeMember
      ⟨"low", "negative", true, "negative"⟩).result = .ok (some "(low<0) == false") := by
    rw [result_propositionCondition, collect_withThreshold, collect_rangeMember, Run.ok_map]
    exact congrArg Except.ok (by decide)
  have hle : 0 ≤ 2 := by decide
  exact ⟨hle, hlow, (guards_of_raised_threshold rangeContext rangeMember hle).1 _ _ hlow⟩

end ProseGuard.Context
