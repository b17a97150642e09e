import ProseGuard.Proofs.Candidate.Collect
import ProseGuard.Proofs.Candidate.Nearest
import ProseGuard.Proofs.Candidate.Words
import ProseGuard.Proofs.Comment.Proposition
import ProseGuard.Proofs.Guard.Outcome

/-!
# The guard of a comment with a modal phrase

A comment that describes a parameter and then says with a modal phrase what it has to be becomes the
condition that the predicate states of the parameter, denied if the phrase is negative. Main
statement: `result_paramGuard_of_modal`, which goes from the text of the comment to the text of the
condition.
-/

namespace ProseGuard.Context

open Comment (IsName IsDescription IsPredicate Member ParamTag Proposition modals affirmativeModals)
open Candidate (Element Pool)
open Guard (Suffix)

/-- An element of a pool is the parameter of that declared name, and no other element is at no
distance from the name. -/
structure Designated (pool : Pool) (name : Text) (e : Element) : Prop where
  mem : e ∈ pool.elements
  parameter : e.kind = .parameter
  declared : e.identifiers.head? = some name
  only : ∀ f ∈ pool.elements, f.distance name = 0 → f = e

variable {ctx : Context} {member : Member} {pool : Pool} {e : Element}
variable {name description modal predicate : Text} {suffix : Suffix}

/-- A name is looked up as it is. -/
theorem cleanSubject_name (h : IsName name) : cleanSubject name = name := by
  have hlead : ∀ lead ∈ subjectLeads, Text.after? lead name = none := by
    intro lead hlead
    have hspace : ∀ lead ∈ subjectLeads, (' ' : Point) ∈ lead := by decide
    cases hafter : Text.after? lead name with
    | none => rfl
    | some rest =>
        have hname := Text.after?_eq_some_iff.1 hafter
        have hmem : (' ' : Point) ∈ name := by simp [hname, hspace lead hlead]
        exact absurd hmem (h.not_mem (by decide))
  rw [cleanSubject, List.findSome?_eq_none_iff.2 hlead, Option.getD_none]
  exact h.trimWhere_eq fun c hc => Bool.or_eq_true_iff.2 (.inl hc)

/-- The name of a designated parameter names it alone. -/
theorem named_of_designated (hname : IsName name) (he : Designated pool name e) :
    ctx.named pool name = [e] := by
  have hzero : e.distance name = 0 :=
    Element.distance_eq_zero_iff.2 ⟨name, List.mem_of_mem_head? he.declared, rfl⟩
  rw [named, cleanSubject_name hname]
  exact Candidate.nearest_eq_singleton pool.elements_nodup he.mem hzero he.only
    (Int.natCast_nonneg _)

/-- What a proposition says of a designated parameter with a literal predicate. -/
theorem propositionCondition?_of_designated (hname : IsName name) (he : Designated pool name e)
    {p : Proposition} (hsubject : p.subject = name)
    (hsuffix : Suffix.ofPredicate? p.predicate = some suffix)
    (hstated : e.expression ++ suffix.text ≠ ctx.degenerateCondition) :
    ctx.propositionCondition? member pool p =
      some (if p.negated then negated (e.expression ++ suffix.text)
        else e.expression ++ suffix.text) := by
  have hcondition : ctx.condition? member e p.predicate p.negated =
      some (if p.negated then negated (e.expression ++ suffix.text)
        else e.expression ++ suffix.text) := by
    unfold condition? statement?
    simp only [hsuffix, if_neg hstated]
  have hnamed : ctx.named pool p.subject = [e] := by
    rw [hsubject, named_of_designated hname he]
  rw [propositionCondition?_of_named p hnamed, hcondition]

/-- A comment that describes a parameter and says with a modal phrase what it has to be states the
condition of the predicate, denied if the phrase is negative. -/
theorem result_paramGuard_of_modal (hsource : ctx.source = .pattern)
    (hpool : (ctx.collect member).result = .ok pool) (hname : IsName name)
    (he : Designated pool name e) (hmodal : modal ∈ modals)
    (hdescription : IsDescription description) (hpredicate : IsPredicate predicate)
    (hsuffix : Suffix.ofPredicate? predicate = some suffix)
    (hstated : e.expression ++ suffix.text ≠ ctx.degenerateCondition) :
    (ctx.paramGuard member ⟨name, description ++ modal ++ " " ++ predicate⟩).result =
      .ok ⟨.param, name, description ++ modal ++ " " ++ predicate,
        some (if modal ∈ affirmativeModals then e.expression ++ suffix.text
          else negated (e.expression ++ suffix.text))⟩ := by
  obtain ⟨before, head, hfound, hbefore⟩ :=
    Comment.propositions_supplySubject hname hmodal hpredicate hdescription
  rw [← List.append_assoc, ← List.append_assoc] at hfound
  have hsilent : before.filter (fun p => !p.predicate.isEmpty) = [] :=
    List.filter_eq_nil_iff.2 fun p hp => by simp [hbefore p hp]
  have hsaid : predicate.isEmpty = false := List.isEmpty_eq_false_iff.2 hpredicate.ne_nil
  have hcondition : ctx.propositionCondition? member pool
      ⟨name, predicate, !affirmativeModals.contains modal, head⟩ =
        some (if modal ∈ affirmativeModals then e.expression ++ suffix.text
          else negated (e.expression ++ suffix.text)) := by
    rw [propositionCondition?_of_designated hname he rfl hsuffix hstated]
    by_cases h : modal ∈ affirmativeModals <;> simp [h]
  have hconditions : (ctx.conditions member (Comment.supplySubject name
      (description ++ modal ++ " " ++ predicate))).result =
        .ok [if modal ∈ affirmativeModals then e.expression ++ suffix.text
          else negated (e.expression ++ suffix.text)] := by
    rw [ctx.result_conditions_of_collect member hpool, hsource]
    show Except.ok (((Comment.propositions _).filter _).filterMap _) = _
    rw [hfound, List.filter_append, hsilent, List.nil_append,
      List.filter_cons_of_pos (by simp [hsaid]), List.filter_nil,
      List.filterMap_cons_some hcondition, List.filterMap_nil]
  have htext : (ctx.textCondition member (Comment.supplySubject name
      (description ++ modal ++ " " ++ predicate))).result =
        .ok (some (if modal ∈ affirmativeModals then e.expression ++ suffix.text
          else negated (e.expression ++ suffix.text))) := by
    rw [textCondition, Run.result_bind, hconditions]
    rfl
  rw [paramGuard, Run.result_bind, htext]
  rfl

theorem designated_rangePool : Designated rangePool "low"
    (Candidate.parameterElement "low" 0 "int" ["high"] true) where
  mem := by decide
  parameter := rfl
  declared := rfl
  only := by decide

theorem isName_low : IsName "low" where
  ne_nil := by decide
  unbroken := by decide
  no_verb := by decide

theorem isDescription_lowerBound : IsDescription "the lower bound, " where
  verbless := by
    unfold Comment.Verbless
    decide
  no_parenthesis := by decide
  no_modal := by decide

theorem isPredicate_negative : IsPredicate "negative" where
  spaced := by
    unfold Text.IsSpaced
    decide
  ne_nil := by decide
  starts := by decide
  ends := by decide
  no_semicolon := by decide
  no_stop := by decide
  no_parenthesis := by decide
  no_modal := by decide
  no_verb := by decide

/-- A comment on a lower bound becomes the condition that it is not negative. -/
theorem result_paramGuard_of_modal_rangeMember :
    (rangeContext.collect rangeMember).result = .ok rangePool ∧
      (rangeContext.paramGuard rangeMember
        ⟨"low", "the lower bound, must not be negative"⟩).result =
        .ok ⟨.param, "low", "the lower bound, must not be negative", some "(low<0) == false"⟩ := by
  have hmodal : ("must not be" : Text) ∈ modals := by decide
  have hsuffix : Suffix.ofPredicate? "negative" = some (.compare .lt (.number 0)) := by
    decide
  have hguard := result_paramGuard_of_modal rfl collect_rangeMember isName_low designated_rangePool
    hmodal isDescription_lowerBound isPredicate_negative hsuffix (by decide)
  refine ⟨collect_rangeMember, ?_⟩
  have hcomment : ("the lower bound, " : Text) ++ "must not be" ++ " " ++ "negative" =
      "the lower bound, must not be negative" := by decide
  rw [hcomment] at hguard
  exact hguard

end ProseGuard.Context
