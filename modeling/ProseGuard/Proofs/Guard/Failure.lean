import ProseGuard.Proofs.Candidate.Origin
import ProseGuard.Proofs.Guard.Outcome

/-!
# Where looking for guards fails

The source of propositions is the only part of the search that can fail. Main statements:
`exists_memberGuards_iff`, by which a member has guards exactly when the source answers the text of
each of its tags, and `failure_of_memberGuards`, by which under settings a search fails only with
the pipeline that they name.
-/

namespace ProseGuard.Context

open Comment (Member ParamTag ThrowsTag Proposition)
open Candidate (Element Pool)

/-- The texts of a member's tags, as they are put to the source of propositions. -/
def tagTexts (member : Member) : List Text :=
  member.paramTags.map (fun tag => Comment.supplySubject tag.parameter tag.comment) ++
    member.throwsTags.map fun tag => withoutLead tag.comment

/-- The source has an answer to the text. -/
def Answers (ctx : Context) (text : Text) : Prop :=
  ∃ found, (ctx.source.read text).result = .ok found

variable {ctx : Context} {member : Member}

/-- Collecting fails only where the source does, on the text of a tag about a parameter. -/
theorem exists_tag_of_collect_eq_error {failure : Failure}
    (h : (ctx.collect member).result = .error failure) :
    ∃ tag ∈ member.paramTags,
      (ctx.source.read (Comment.supplySubject tag.parameter tag.comment)).result =
        .error failure := by
  cases htype : ctx.program.find? member.containingType with
  | none => simp [collect, htype] at h
  | some type =>
      cases hexecutable : ctx.program.findExecutable? type member.name member.parameterTypes
          member.isConstructor with
      | none => simp [collect, htype, hexecutable] at h
      | some executable =>
          have hresolves : ctx.program.Resolves member type executable := ⟨htype, hexecutable⟩
          rw [ctx.result_collect member hresolves] at h
          cases hmined : member.parameters.mapM (ctx.minedFor member) with
          | ok mined => simp [hmined] at h
          | error e =>
              rw [hmined] at h
              obtain rfl : e = failure := Except.error.inj h
              obtain ⟨p, -, hp⟩ := Run.exists_of_mapM_eq_error hmined
              exact exists_tag_of_minedFor_eq_error hp

/-- Where the source answers the text of every tag, the candidates can be collected. -/
theorem exists_collect (h : ∀ text ∈ tagTexts member, ctx.Answers text) :
    ∃ pool, (ctx.collect member).result = .ok pool := by
  cases hcollect : (ctx.collect member).result with
  | ok pool => exact ⟨pool, rfl⟩
  | error e =>
      obtain ⟨tag, htag, hread⟩ := exists_tag_of_collect_eq_error hcollect
      obtain ⟨found, hfound⟩ := h _ (List.mem_append_left _ (List.mem_map_of_mem htag))
      exact nomatch hread.symm.trans hfound

/-- A comment has conditions only if the source answers it. -/
theorem answers_of_textCondition {text : Text} {condition : Option Text}
    (h : (ctx.textCondition member text).result = .ok condition) : ctx.Answers text := by
  rw [textCondition, conditions] at h
  cases hread : (ctx.source.read text).result with
  | ok found => exact ⟨found, hread⟩
  | error e => simp [hread] at h

/-- With the candidates known, an answer of the source is all that a condition needs. -/
theorem exists_textCondition {pool : Pool} (hpool : (ctx.collect member).result = .ok pool)
    {text : Text} (h : ctx.Answers text) :
    ∃ condition, (ctx.textCondition member text).result = .ok condition := by
  obtain ⟨found, hread⟩ := h
  rw [textCondition, Run.result_bind, ctx.result_conditions_of_collect member hpool, hread]
  exact ⟨_, rfl⟩

/-- The guard of a parameter tag has the condition of the tag's text. -/
theorem result_paramGuard (tag : ParamTag) :
    (ctx.paramGuard member tag).result =
      (ctx.textCondition member (Comment.supplySubject tag.parameter tag.comment)).result.map
        fun condition => ⟨.param, tag.parameter, tag.comment, condition⟩ := by
  rw [paramGuard, Run.result_bind]
  cases (ctx.textCondition member (Comment.supplySubject tag.parameter tag.comment)).result <;> rfl

/-- So has the guard of a throws tag. -/
theorem result_throwsGuard (tag : ThrowsTag) :
    (ctx.throwsGuard member tag).result =
      (ctx.textCondition member (withoutLead tag.comment)).result.map
        fun condition => ⟨.throws, tag.exception, tag.comment, condition⟩ := by
  rw [throwsGuard, Run.result_bind]
  cases (ctx.textCondition member (withoutLead tag.comment)).result <;> rfl

/-- The guards of a member are those of its tags. -/
theorem memberGuards_eq_ok_iff {guards : MemberGuards} :
    (ctx.memberGuards member).result = .ok guards ↔
      guards.member = member.signature ∧
      List.Forall₂ (fun tag guard => (ctx.paramGuard member tag).result = .ok guard)
        member.paramTags guards.preconditions ∧
      List.Forall₂ (fun tag guard => (ctx.throwsGuard member tag).result = .ok guard)
        member.throwsTags guards.throws := by
  rw [← Run.mapM_eq_ok_iff, ← Run.mapM_eq_ok_iff, memberGuards, Run.result_bind, Run.result_mapM]
  obtain ⟨signature, preconditions, throws⟩ := guards
  cases member.paramTags.mapM fun tag => (ctx.paramGuard member tag).result with
  | error e => simp
  | ok first =>
      rw [Run.ok_bind, Run.result_bind, Run.result_mapM]
      cases member.throwsTags.mapM fun tag => (ctx.throwsGuard member tag).result with
      | error e => simp
      | ok second => simp [eq_comm]

/-- A guard has the condition of the text of one of the tags. -/
theorem exists_text_of_mem_guards {guards : MemberGuards}
    (h : (ctx.memberGuards member).result = .ok guards) {guard : TagGuard}
    (hguard : guard ∈ guards.preconditions ++ guards.throws) :
    ∃ text ∈ tagTexts member, (ctx.textCondition member text).result = .ok guard.condition := by
  obtain ⟨-, hparams, hthrows⟩ := memberGuards_eq_ok_iff.1 h
  rcases List.mem_append.1 hguard with hguard | hguard
  · obtain ⟨tag, htag, hresult⟩ := Run.exists_of_mem_right hparams hguard
    rw [result_paramGuard] at hresult
    obtain ⟨condition, hcondition, rfl⟩ := Run.map_eq_ok_iff.1 hresult
    exact ⟨_, List.mem_append_left _ (List.mem_map_of_mem htag), hcondition⟩
  · obtain ⟨tag, htag, hresult⟩ := Run.exists_of_mem_right hthrows hguard
    rw [result_throwsGuard] at hresult
    obtain ⟨condition, hcondition, rfl⟩ := Run.map_eq_ok_iff.1 hresult
    exact ⟨_, List.mem_append_right _ (List.mem_map_of_mem htag), hcondition⟩

/-- A member has guards exactly when each of its tags has one. -/
theorem exists_memberGuards_iff_tags :
    (∃ guards, (ctx.memberGuards member).result = .ok guards) ↔
      ∀ text ∈ tagTexts member, ∃ condition,
        (ctx.textCondition member text).result = .ok condition := by
  have hall : (∀ text ∈ tagTexts member, ∃ condition,
      (ctx.textCondition member text).result = .ok condition) ↔
        (∃ guards, member.paramTags.mapM (fun tag => (ctx.paramGuard member tag).result) =
          .ok guards) ∧
        ∃ guards, member.throwsTags.mapM (fun tag => (ctx.throwsGuard member tag).result) =
          .ok guards := by
    simp only [tagTexts, List.forall_mem_append, List.forall_mem_map, Run.exists_mapM_eq_ok_iff,
      result_paramGuard, result_throwsGuard, Run.exists_map_eq_ok_iff]
  rw [hall]
  constructor
  · rintro ⟨guards, h⟩
    obtain ⟨-, hparams, hthrows⟩ := memberGuards_eq_ok_iff.1 h
    exact ⟨⟨_, Run.mapM_eq_ok_iff.2 hparams⟩, ⟨_, Run.mapM_eq_ok_iff.2 hthrows⟩⟩
  · rintro ⟨⟨preconditions, hparams⟩, ⟨throws, hthrows⟩⟩
    exact ⟨⟨member.signature, preconditions, throws⟩, memberGuards_eq_ok_iff.2
      ⟨rfl, Run.mapM_eq_ok_iff.1 hparams, Run.mapM_eq_ok_iff.1 hthrows⟩⟩

/-- A member has guards exactly when the source answers the text of each of its tags. -/
theorem exists_memberGuards_iff :
    (∃ guards, (ctx.memberGuards member).result = .ok guards) ↔
      ∀ text ∈ tagTexts member, ctx.Answers text := by
  rw [exists_memberGuards_iff_tags]
  constructor
  · intro h text htext
    obtain ⟨condition, hcondition⟩ := h text htext
    exact answers_of_textCondition hcondition
  · intro h text htext
    obtain ⟨pool, hpool⟩ := exists_collect h
    exact exists_textCondition hpool (h text htext)

/-! ## The failure of a search -/

/-- A comment has no conditions only for a failure of the source. -/
theorem exists_read_of_textCondition_eq_error {text : Text} {failure : Failure}
    (h : (ctx.textCondition member text).result = .error failure) :
    ∃ asked, (ctx.source.read asked).result = .error failure := by
  rw [textCondition, Run.result_bind, conditions, Run.result_bind] at h
  cases hread : (ctx.source.read text).result with
  | error e =>
      rw [hread] at h
      obtain rfl : e = failure := Except.error.inj h
      exact ⟨text, hread⟩
  | ok found =>
      rw [hread, Run.ok_bind, Run.result_bind, Run.result_mapM] at h
      cases hstated : (found.filter fun p => !p.predicate.isEmpty).mapM
          fun p => (ctx.propositionCondition member p).result with
      | ok stated => simp [hstated] at h
      | error e =>
          rw [hstated] at h
          obtain rfl : e = failure := Except.error.inj h
          obtain ⟨p, -, hp⟩ := Run.exists_of_mapM_eq_error hstated
          rw [result_propositionCondition] at hp
          obtain ⟨tag, -, hfail⟩ := exists_tag_of_collect_eq_error (Run.map_eq_error_iff.1 hp)
          exact ⟨_, hfail⟩

/-- A member has no guards only for a failure of the source. -/
theorem exists_read_of_memberGuards_eq_error {failure : Failure}
    (h : (ctx.memberGuards member).result = .error failure) :
    ∃ asked, (ctx.source.read asked).result = .error failure := by
  rw [memberGuards, Run.result_bind, Run.result_mapM] at h
  cases hparams : member.paramTags.mapM fun tag => (ctx.paramGuard member tag).result with
  | error e =>
      rw [hparams] at h
      obtain rfl : e = failure := Except.error.inj h
      obtain ⟨tag, -, htag⟩ := Run.exists_of_mapM_eq_error hparams
      rw [result_paramGuard] at htag
      exact exists_read_of_textCondition_eq_error (Run.map_eq_error_iff.1 htag)
  | ok preconditions =>
      rw [hparams, Run.ok_bind, Run.result_bind, Run.result_mapM] at h
      cases hthrows : member.throwsTags.mapM fun tag => (ctx.throwsGuard member tag).result with
      | ok throws => simp [hthrows] at h
      | error e =>
          rw [hthrows] at h
          obtain rfl : e = failure := Except.error.inj h
          obtain ⟨tag, -, htag⟩ := Run.exists_of_mapM_eq_error hthrows
          rw [result_throwsGuard] at htag
          exact exists_read_of_textCondition_eq_error (Run.map_eq_error_iff.1 htag)

/-- Under settings a member has no guards only for want of the pipeline that they name, or for a
fault of that pipeline. -/
theorem failure_of_memberGuards {program : Program} {settings : Settings}
    {pipelines : Comment.Pipelines} {failure : Failure}
    (h : ((ofSettings program settings pipelines).memberGuards member).result = .error failure) :
    (∃ reason, pipelines.load settings.pipelineModel = .error reason ∧
      failure = .problem (.configuration (.noPipeline ⟨settings.pipelineModel, reason⟩))) ∨
    ∃ analyse asked fault, pipelines.load settings.pipelineModel = .ok analyse ∧
      analyse asked = .error fault ∧ failure = .fault fault := by
  obtain ⟨asked, hasked⟩ := exists_read_of_memberGuards_eq_error h
  change ((settings.propositionSource pipelines).read asked).result = .error failure at hasked
  unfold Settings.propositionSource at hasked
  cases hsource : settings.source with
  | pattern =>
      rw [hsource] at hasked
      exact nomatch hasked
  | pipeline =>
      rw [hsource] at hasked
      simp only [Comment.Source.result_named] at hasked
      split at hasked
      · exact nomatch hasked
      · cases hload : pipelines.load settings.pipelineModel with
        | error reason =>
            rw [hload] at hasked
            exact .inl ⟨reason, rfl, (Except.error.inj hasked).symm⟩
        | ok analyse =>
            rw [hload] at hasked
            cases hanalyse : analyse asked with
            | ok sentences => simp [hanalyse, Except.mapError, Except.map] at hasked
            | error fault =>
                simp only [hanalyse, Except.mapError, Except.map] at hasked
                exact .inr ⟨analyse, asked, fault, rfl, hanalyse, (Except.error.inj hasked).symm⟩

end ProseGuard.Context
