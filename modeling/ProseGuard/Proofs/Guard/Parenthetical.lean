import ProseGuard.Proofs.Candidate.Collect
import ProseGuard.Proofs.Candidate.Nearest
import ProseGuard.Proofs.Comment.Parenthetical
import ProseGuard.Proofs.Guard.Failure

/-!
# Parentheses in a description

Main statement: `result_paramGuard_of_parenthetical`, which compares the guard of a comment that
describes a parameter in plain words with the guard of the comment that has some more words in
parentheses behind them. With the parentheses the modal phrase is said of the whole description with
the name, so its condition is kept as far as the description with the name still names what the name
does, and is lost if the description takes it too far from all candidates.
-/

namespace ProseGuard.Context

open Comment (IsPlain IsWord Member ParamTag Proposition beforeVerb modalComment modals propositions
  subjectBehind subjectLead suppliedClause withParenthetical)
open Candidate (Element Pool)

variable {ctx : Context} {member : Member} {pool : Pool} {p : Proposition}

/-! ## What propositions state together -/

/-- The condition that propositions state together, the candidates being those of a pool. -/
def statedBy? (ctx : Context) (member : Member) (pool : Pool) (found : List Proposition) :
    Option Text :=
  let conditions := (found.filter fun p => !p.predicate.isEmpty).filterMap
    (ctx.propositionCondition? member pool)
  if conditions.isEmpty then none else some (joined "&&" conditions)

/-- With the candidates known, the guard of a tag has the condition that the propositions of its
comment state together. -/
theorem result_paramGuard_of_pattern (hsource : ctx.source = .pattern)
    (hpool : (ctx.collect member).result = .ok pool) (tag : ParamTag) :
    (ctx.paramGuard member tag).result = .ok ⟨.param, tag.parameter, tag.comment,
      ctx.statedBy? member pool
        (propositions (Comment.supplySubject tag.parameter tag.comment))⟩ := by
  rw [result_paramGuard, textCondition, Run.result_bind,
    ctx.result_conditions_of_collect member hpool, hsource]
  rfl

/-- Propositions without a predicate state nothing. -/
theorem statedBy?_append_of_silent {silent : List Proposition}
    (h : ∀ p ∈ silent, p.predicate = []) (found : List Proposition) :
    ctx.statedBy? member pool (silent ++ found) = ctx.statedBy? member pool found := by
  have hsilent : silent.filter (fun p => !p.predicate.isEmpty) = [] :=
    List.filter_eq_nil_iff.2 fun p hp => by simp [h p hp]
  rw [statedBy?, List.filter_append, hsilent, List.nil_append, statedBy?]

/-- A proposition that states nothing may be left out. -/
theorem statedBy?_cons_of_none (h : ctx.propositionCondition? member pool p = none)
    (others : List Proposition) :
    ctx.statedBy? member pool (p :: others) = ctx.statedBy? member pool others := by
  simp only [statedBy?, List.filter_cons]
  by_cases hsaid : (!p.predicate.isEmpty) = true
  · rw [if_pos hsaid, List.filterMap_cons_none h]
  · rw [if_neg hsaid]

/-! ## What is said of another subject -/

/-- What is said of a subject is stated of all that it names. -/
theorem propositionCondition?_about (p : Proposition) (subject : Text) :
    ctx.propositionCondition? member pool (p.about subject) =
      if (ctx.named pool subject).isEmpty then none
      else ((ctx.named pool subject).mapM fun e =>
        ctx.condition? member e p.predicate p.negated).map (joined (subjectOperator subject)) :=
  rfl

/-- It makes no difference for what is stated which of two subjects is spoken of that name the
same. -/
theorem statedBy?_about_congr {subject other : Text}
    (hnamed : ctx.named pool subject = ctx.named pool other)
    (hoperator : subjectOperator subject = subjectOperator other) (p : Proposition)
    (others : List Proposition) :
    ctx.statedBy? member pool (p.about subject :: others) =
      ctx.statedBy? member pool (p.about other :: others) := by
  have hstated : ctx.propositionCondition? member pool (p.about subject) =
      ctx.propositionCondition? member pool (p.about other) := by
    rw [propositionCondition?_about, propositionCondition?_about, hnamed, hoperator]
  have hpredicate : (p.about subject).predicate = (p.about other).predicate := rfl
  simp only [statedBy?, List.filter_cons, hpredicate]
  by_cases hsaid : (!(p.about other).predicate.isEmpty) = true
  · rw [if_pos hsaid, if_pos hsaid, List.filterMap_cons, List.filterMap_cons, hstated]
  · rw [if_neg hsaid, if_neg hsaid]

/-- Nothing is stated of a subject that is too far from all candidates. -/
theorem propositionCondition?_about_of_far {subject : Text}
    (h : ∀ e ∈ pool.elements, ctx.settings.threshold < e.distance (cleanSubject subject)) :
    ctx.propositionCondition? member pool (p.about subject) = none := by
  have hnone : ctx.named pool subject = [] := by
    refine List.eq_nil_iff_forall_not_mem.2 fun e he => ?_
    obtain ⟨hmem, hle, -⟩ := Candidate.mem_nearest.1 he
    have hfar := h e hmem
    omega
  rw [propositionCondition?_about, hnone, List.isEmpty_nil, if_pos rfl]

/-! ## The two comments -/

section Comments

variable {name modal rest : Text} (hsource : ctx.source = .pattern)
  (hpool : (ctx.collect member).result = .ok pool) (hname : IsWord name) (hmodal : modal ∈ modals)
  (hrest : (∀ phrase ∈ modals, ¬ phrase <:+: rest) ∨ ¬ ("be" : Text) <+: name)

include hsource hpool hname hmodal hrest

/-- The guard of a comment with a front has the condition of its clause, said of the subject that
the front leaves to it. -/
theorem result_paramGuard_of_front {front : Text} (hfront : IsPlain front) :
    (ctx.paramGuard member ⟨name, modalComment front modal rest⟩).result =
      .ok ⟨.param, name, modalComment front modal rest, ctx.statedBy? member pool
        ((propositions (suppliedClause (subjectLead (modalComment front modal rest)) name modal
          rest)).modifyHead
            (·.about (subjectBehind (modalComment front modal rest) front name)))⟩ := by
  obtain ⟨silent, hsaid, hsilent⟩ :=
    Comment.propositions_modalComment hname hmodal hfront hrest
  rw [result_paramGuard_of_pattern hsource hpool, hsaid, statedBy?_append_of_silent hsilent]

/-- Words in parentheses behind a plain description change the subject of the clause that the modal
phrase opens: it becomes the description and the parentheses with the name. The condition is the
same if the clause is and that subject still names the same, and what the clause states is lost if
the subject is too far from all candidates. The clause is the same if no further modal phrase
follows. -/
theorem result_paramGuard_of_parenthetical {description inner : Text}
    (hdescription : IsPlain description) (hinner : IsPlain inner) :
    ∃ condition condition',
      (ctx.paramGuard member ⟨name, modalComment description modal rest⟩).result =
        .ok ⟨.param, name, modalComment description modal rest, condition⟩ ∧
      (ctx.paramGuard member
          ⟨name, modalComment (withParenthetical description inner) modal rest⟩).result =
        .ok ⟨.param, name, modalComment (withParenthetical description inner) modal rest,
          condition'⟩ ∧
      condition = ctx.statedBy? member pool
        ((propositions (suppliedClause (subjectLead (modalComment description modal rest)) name
          modal rest)).modifyHead
            (·.about (subjectBehind (modalComment description modal rest) description name))) ∧
      condition' = ctx.statedBy? member pool
        ((propositions (suppliedClause " " name modal rest)).modifyHead
          (·.about (beforeVerb (withParenthetical description inner ++ " " ++ name)))) ∧
      (suppliedClause " " name modal rest =
          suppliedClause (subjectLead (modalComment description modal rest)) name modal rest →
        ctx.named pool (beforeVerb (withParenthetical description inner ++ " " ++ name)) =
          ctx.named pool
            (subjectBehind (modalComment description modal rest) description name) →
        subjectOperator (beforeVerb (withParenthetical description inner ++ " " ++ name)) =
          subjectOperator
            (subjectBehind (modalComment description modal rest) description name) →
        condition' = condition) ∧
      ((∀ e ∈ pool.elements, ctx.settings.threshold < e.distance (cleanSubject
          (beforeVerb (withParenthetical description inner ++ " " ++ name)))) →
        condition' =
          ctx.statedBy? member pool (propositions (suppliedClause " " name modal rest)).tail) ∧
      ((∀ phrase ∈ modals, ¬ phrase <:+: rest) → ∀ lead,
        suppliedClause lead name modal rest = modalComment name modal rest) := by
  have hplain := result_paramGuard_of_front hsource hpool hname hmodal hrest hdescription
  have hbehind := result_paramGuard_of_front hsource hpool hname hmodal hrest
    (hdescription.withParenthetical hinner)
  have hparenthesis :
      (modalComment (withParenthetical description inner) modal rest).contains '(' = true := by
    have hmark : ('(' : Point) ∈ (" (" : Text) := by decide
    simp [modalComment, withParenthetical, hmark]
  have hlead : subjectLead (modalComment (withParenthetical description inner) modal rest) = " " :=
    if_pos hparenthesis
  rw [subjectBehind, if_pos hparenthesis, hlead] at hbehind
  obtain ⟨p, others, hclause⟩ := List.exists_cons_of_ne_nil
    (Comment.propositions_suppliedClause_ne_nil hname hmodal " " rest)
  refine ⟨_, _, hplain, hbehind, rfl, rfl, fun hsame hnamed hoperator => ?_, fun hfar => ?_,
    fun habsent lead => Comment.suppliedClause_of_absent habsent lead name modal⟩
  · rw [← hsame, hclause, List.modifyHead_cons, List.modifyHead_cons]
    exact statedBy?_about_congr hnamed hoperator p others
  · rw [hclause, List.modifyHead_cons, List.tail_cons]
    exact statedBy?_cons_of_none (propositionCondition?_about_of_far hfar) others

end Comments

theorem isPlain_lowerBound : IsPlain "the lower bound" where
  verbless := by
    unfold Comment.Verbless
    decide
  no_mark := by decide
  no_modal := by decide

theorem isPlain_inclusive : IsPlain "inclusive" where
  verbless := by
    unfold Comment.Verbless
    decide
  no_mark := by decide
  no_modal := by decide

theorem isWord_low : IsWord "low" where
  ne_nil := by decide
  not_isBlank := by decide
  no_mark := by decide

/-- The subject "the lower bound (inclusive) low" is too far from all candidates, so a comment on a
lower bound keeps of its two conditions the one that its second sentence states. -/
theorem result_paramGuard_of_parenthetical_rangeMember :
    (IsWord "low" ∧ ("must not be" : Text) ∈ modals ∧
        (∀ phrase ∈ modals, ¬ phrase <:+: ("negative; low is positive" : Text)) ∧
        IsPlain "the lower bound" ∧ IsPlain "inclusive") ∧
      (rangeContext.collect rangeMember).result = .ok rangePool ∧
      (rangeContext.paramGuard rangeMember
        ⟨"low", "the lower bound must not be negative; low is positive"⟩).result =
          .ok ⟨.param, "low", "the lower bound must not be negative; low is positive",
            some "((low<0) == false) && (low>0)"⟩ ∧
      (rangeContext.paramGuard rangeMember
        ⟨"low", "the lower bound (inclusive) must not be negative; low is positive"⟩).result =
          .ok ⟨.param, "low", "the lower bound (inclusive) must not be negative; low is positive",
            some "low>0"⟩ := by
  have hmodal : ("must not be" : Text) ∈ modals := by decide
  have hrest : ∀ phrase ∈ modals, ¬ phrase <:+: ("negative; low is positive" : Text) := by
    decide
  obtain ⟨condition, condition', hfirst, hsecond, hcondition, -, -, hfar, -⟩ :=
    result_paramGuard_of_parenthetical rfl collect_rangeMember isWord_low hmodal (.inl hrest)
      isPlain_lowerBound isPlain_inclusive
  have hplain : condition = some ("((low<0) == false) && (low>0)" : Text) :=
    hcondition.trans (by decide)
  have hbehind : condition' = some ("low>0" : Text) :=
    (hfar (by decide +kernel)).trans (by decide +kernel)
  have htexts : modalComment "the lower bound" "must not be" "negative; low is positive" =
        "the lower bound must not be negative; low is positive" ∧
      modalComment (withParenthetical "the lower bound" "inclusive") "must not be"
          "negative; low is positive" =
        "the lower bound (inclusive) must not be negative; low is positive" := by
    decide
  rw [htexts.1, hplain] at hfirst
  rw [htexts.2, hbehind] at hsecond
  exact ⟨⟨isWord_low, hmodal, hrest, isPlain_lowerBound, isPlain_inclusive⟩, collect_rangeMember,
    hfirst, hsecond⟩

/-- The parentheses cost a comment on a lower bound its guard. -/
theorem result_paramGuard_inclusive :
    rangeContext.source = .pattern ∧ IsWord "low" ∧ IsPlain "the lower bound" ∧
      IsPlain "inclusive" ∧ ("must not be" : Text) ∈ modals ∧
      (rangeContext.collect rangeMember).result = .ok rangePool ∧
      (rangeContext.paramGuard rangeMember
        ⟨"low", "the lower bound must not be negative"⟩).result =
          .ok ⟨.param, "low", "the lower bound must not be negative",
            some "(low<0) == false"⟩ ∧
      (rangeContext.paramGuard rangeMember
        ⟨"low", "the lower bound (inclusive) must not be negative"⟩).result =
          .ok ⟨.param, "low", "the lower bound (inclusive) must not be negative", none⟩ := by
  have hplain : rangeContext.statedBy? rangeMember rangePool (propositions
      (Comment.supplySubject "low" "the lower bound must not be negative")) =
        some ("(low<0) == false" : Text) := by
    decide
  have hbehind : rangeContext.statedBy? rangeMember rangePool (propositions
      (Comment.supplySubject "low" "the lower bound (inclusive) must not be negative")) = none := by
    decide +kernel
  refine ⟨rfl, isWord_low, isPlain_lowerBound, isPlain_inclusive, by decide,
    collect_rangeMember, ?_, ?_⟩
  · rw [result_paramGuard_of_pattern rfl collect_rangeMember, hplain]
  · rw [result_paramGuard_of_pattern rfl collect_rangeMember, hbehind]

end ProseGuard.Context
