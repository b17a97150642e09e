import Mathlib.Data.List.Perm.Basic
import ProseGuard.Proofs.Candidate.Words
import ProseGuard.Proofs.Guard.Failure

/-!
# The order of tags

The words for the parameters of a member are mined from all its tags, and yet the order of the tags
shows nowhere but in the order of the guards: what is mined for a parameter is a set of words. Main
statement: `memberGuards_of_perm`, by which one table of conditions, looked up by the texts of the
tags, gives the guards for any order of them.
-/

namespace ProseGuard

open Comment (Member ParamTag ThrowsTag Proposition)
open Candidate (Element Pool)

namespace Comment.Member

/-- The same member with other tags. -/
def withTags (member : Member) (params : List ParamTag) (throws : List ThrowsTag) : Member :=
  { member with paramTags := params, throwsTags := throws }

variable (member : Member) (params : List ParamTag) (throws : List ThrowsTag)

@[simp] theorem name_withTags : (member.withTags params throws).name = member.name := rfl

@[simp] theorem containingType_withTags :
    (member.withTags params throws).containingType = member.containingType := rfl

@[simp] theorem isConstructor_withTags :
    (member.withTags params throws).isConstructor = member.isConstructor := rfl

@[simp] theorem parameterTypes_withTags :
    (member.withTags params throws).parameterTypes = member.parameterTypes := rfl

@[simp] theorem signature_withTags :
    (member.withTags params throws).signature = member.signature := rfl

end Comment.Member

namespace Context

open Run (SameValue)

/-- The guards of a member the texts of whose tags have the given conditions. -/
def guardsOf (member : Member) (condition : Text → Option Text) : MemberGuards where
  member := member.signature
  preconditions := member.paramTags.map fun tag =>
    ⟨.param, tag.parameter, tag.comment,
      condition (Comment.supplySubject tag.parameter tag.comment)⟩
  throws := member.throwsTags.map fun tag =>
    ⟨.throws, tag.exception, tag.comment, condition (withoutLead tag.comment)⟩

variable {ctx : Context} {member : Member}

/-- The guards of a member follow from the conditions of the texts of its tags. -/
theorem memberGuards_eq_guardsOf {condition : Text → Option Text}
    (h : ∀ text ∈ tagTexts member,
      (ctx.textCondition member text).result = .ok (condition text)) :
    (ctx.memberGuards member).result = .ok (guardsOf member condition) := by
  obtain ⟨hparams, hthrows⟩ := List.forall_mem_append.1 h
  refine memberGuards_eq_ok_iff.2 ⟨rfl, ?_, ?_⟩
  · refine List.forall₂_map_right_iff.2 (List.forall₂_same.2 fun tag htag => ?_)
    rw [result_paramGuard, hparams _ (List.mem_map_of_mem htag)]
    rfl
  · refine List.forall₂_map_right_iff.2 (List.forall₂_same.2 fun tag htag => ?_)
    rw [result_throwsGuard, hthrows _ (List.mem_map_of_mem htag)]
    rfl

/-- Mining answers the same set of words for the tags in another order. -/
theorem result_mine_of_perm {other : Member} {parameter : Text} {words : List Text}
    (hperm : (other.tagsFor parameter).Perm (member.tagsFor parameter))
    (h : (ctx.mine member parameter).result = .ok words) :
    (ctx.mine other parameter).result = .ok words := by
  rw [result_mine] at h ⊢
  obtain ⟨found, hfound, rfl⟩ := Run.map_eq_ok_iff.1 h
  rw [Run.result_mapM, Run.mapM_eq_ok_iff] at hfound
  obtain ⟨found', hfound', hsame⟩ := List.perm_comp_forall₂ hperm hfound
  refine Run.map_eq_ok_iff.2 ⟨found', ?_, Candidate.wordSet_eq_of_mem_iff fun w => ?_⟩
  · rw [Run.result_mapM, Run.mapM_eq_ok_iff]
    exact hfound'
  · exact ((hsame.flatten.map _).filter _).mem_iff

variable {params : List ParamTag} {throws : List ThrowsTag}

/-- What a predicate says of an element does not depend on tags. -/
theorem matchPredicate_withTags (subject : Element) (predicate : Text) (negate : Bool) :
    ctx.matchPredicate (member.withTags params throws) subject predicate negate =
      ctx.matchPredicate member subject predicate negate :=
  rfl

/-- Nor does what a proposition says of given elements. -/
theorem conditionsOf_withTags (p : Proposition) (subjects : List Element) :
    ctx.conditionsOf (member.withTags params throws) p subjects =
      ctx.conditionsOf member p subjects := by
  induction subjects with
  | nil => rfl
  | cons subject subjects ih =>
      unfold conditionsOf
      rw [matchPredicate_withTags, ih]

section Perm

variable (hparams : params.Perm member.paramTags)

include hparams

/-- The words for a parameter are the same. -/
theorem sameValue_mine (parameter : Text) :
    SameValue (ctx.mine (member.withTags params throws) parameter)
      (ctx.mine member parameter) := by
  have hperm : ((member.withTags params throws).tagsFor parameter).Perm
      (member.tagsFor parameter) := hparams.filter _
  exact fun words => ⟨result_mine_of_perm hperm.symm, result_mine_of_perm hperm⟩

/-- So are the candidates of a member whose executable is known. -/
theorem sameValue_collectFor (type : Program.TypeDecl) (executable : Program.Executable) :
    SameValue (ctx.collectFor (member.withTags params throws) type executable)
      (ctx.collectFor member type executable) := by
  have hmineAll : ∀ written, SameValue (ctx.mineAll (member.withTags params throws) written)
      (ctx.mineAll member written) := by
    intro written
    refine SameValue.mapM fun x _ => ?_
    exact (sameValue_mine hparams x.1).bind fun _ => .refl _
  unfold collectFor
  -- only mining reads tags: what comes before it and after it is the same program
  exact (SameValue.refl _).bind fun _ => (hmineAll _).bind fun _ => .refl _

/-- So is the pool of every member. -/
theorem sameValue_collect :
    SameValue (ctx.collect (member.withTags params throws)) (ctx.collect member) := by
  unfold collect
  simp only [Member.containingType_withTags, Member.name_withTags, Member.parameterTypes_withTags,
    Member.isConstructor_withTags, Member.signature_withTags]
  cases ctx.program.find? member.containingType with
  | none => exact .refl _
  | some type =>
      simp only []
      cases ctx.program.findExecutable? type member.name member.parameterTypes
          member.isConstructor with
      | none => exact .refl _
      | some executable => exact sameValue_collectFor hparams type executable

/-- So are the elements that a subject names. -/
theorem sameValue_matchSubject (subject : Text) :
    SameValue (ctx.matchSubject subject (member.withTags params throws))
      (ctx.matchSubject subject member) :=
  (sameValue_collect hparams).bind fun _ => .refl _

/-- And so is the condition of a comment. -/
theorem sameValue_textCondition (comment : Text) :
    SameValue (ctx.textCondition (member.withTags params throws) comment)
      (ctx.textCondition member comment) := by
  have hproposition : ∀ p, SameValue
      (ctx.propositionCondition (member.withTags params throws) p)
      (ctx.propositionCondition member p) := by
    intro p
    refine (sameValue_matchSubject hparams p.subject).bind fun subjects => ?_
    rw [conditionsOf_withTags]
    exact .refl _
  have hconditions : SameValue (ctx.conditions (member.withTags params throws) comment)
      (ctx.conditions member comment) := by
    refine (SameValue.refl _).bind fun found => ?_
    exact (SameValue.mapM fun p _ => hproposition p).bind fun _ => .refl _
  exact hconditions.bind fun _ => .refl _

end Perm

/-- The order of the tags of a member does not matter: the same candidates are collected and named,
and where the source answers the texts of the tags, one table of conditions gives the guards for
either order. Where it does not, neither order has guards. -/
theorem memberGuards_of_perm (ctx : Context) (member : Member) {params : List ParamTag}
    {throws : List ThrowsTag} (hparams : params.Perm member.paramTags)
    (hthrows : throws.Perm member.throwsTags) :
    (∀ pool, (ctx.collect (member.withTags params throws)).result = .ok pool ↔
      (ctx.collect member).result = .ok pool) ∧
    (∀ subject elements,
      (ctx.matchSubject subject (member.withTags params throws)).result = .ok elements ↔
        (ctx.matchSubject subject member).result = .ok elements) ∧
    ((∀ text ∈ tagTexts member, ctx.Answers text) → ∃ condition : Text → Option Text,
      (ctx.memberGuards member).result = .ok (guardsOf member condition) ∧
      (ctx.memberGuards (member.withTags params throws)).result =
        .ok (guardsOf (member.withTags params throws) condition)) ∧
    ((∃ text ∈ tagTexts member, ¬ ctx.Answers text) → ∀ guards,
      (ctx.memberGuards member).result ≠ .ok guards ∧
      (ctx.memberGuards (member.withTags params throws)).result ≠ .ok guards) := by
  have htexts : (tagTexts (member.withTags params throws)).Perm (tagTexts member) :=
    (hparams.map _).append (hthrows.map _)
  refine ⟨sameValue_collect hparams, sameValue_matchSubject hparams, fun hanswers => ?_, ?_⟩
  · obtain ⟨pool, hpool⟩ := exists_collect hanswers
    -- the table is read off the runs of the member itself, and the other order answers it too
    let condition : Text → Option Text := fun text =>
      (ctx.textCondition member text).result.toOption.getD none
    have hcondition : ∀ text ∈ tagTexts member,
        (ctx.textCondition member text).result = .ok (condition text) := by
      intro text htext
      obtain ⟨c, hc⟩ := exists_textCondition hpool (hanswers text htext)
      show _ = Except.ok ((ctx.textCondition member text).result.toOption.getD none)
      rw [hc]
      rfl
    refine ⟨condition, memberGuards_eq_guardsOf hcondition,
      memberGuards_eq_guardsOf fun text htext => ?_⟩
    exact (sameValue_textCondition hparams text _).2 (hcondition text (htexts.mem_iff.1 htext))
  · rintro ⟨text, htext, hnone⟩ guards
    refine ⟨fun h => ?_, fun h => ?_⟩
    · exact hnone (exists_memberGuards_iff.1 ⟨guards, h⟩ text htext)
    · exact hnone (exists_memberGuards_iff.1 ⟨guards, h⟩ text (htexts.mem_iff.2 htext))

/-- The words mined for the lower bound are the same with its tag behind that of the higher one, and
so are both guards. -/
theorem memberGuards_of_perm_rangeMember :
    (rangeContext.collect (rangeMember.withTags rangeMember.paramTags.reverse [])).result =
      .ok rangePool ∧
    ∃ condition : Text → Option Text,
      (rangeContext.memberGuards rangeMember).result = .ok (guardsOf rangeMember condition) ∧
      (rangeContext.memberGuards
        (rangeMember.withTags rangeMember.paramTags.reverse [])).result =
          .ok ⟨rangeMember.signature, (guardsOf rangeMember condition).preconditions.reverse, []⟩ := by
  obtain ⟨hcollect, -, hguards, -⟩ :=
    memberGuards_of_perm rangeContext rangeMember (List.reverse_perm _) (List.Perm.refl [])
  obtain ⟨condition, hfirst, hsecond⟩ := hguards fun text _ => ⟨Comment.propositions text, rfl⟩
  exact ⟨(hcollect _).2 collect_rangeMember, condition, hfirst, hsecond⟩

end Context

end ProseGuard
