import ProseGuard.Proofs.Candidate.Balance
import ProseGuard.Proofs.Candidate.Nearest
import ProseGuard.Proofs.Comment.Characters
import ProseGuard.Proofs.Guard.Failure
import ProseGuard.Proofs.Guard.ReadBack

/-!
# Parentheses in guards

Where the names of a program are balanced, the only part of a condition that need not be is a type
behind "instanceof", which is copied from the comment to the end of the line. Main statement:
`balanced_memberGuards`. That such a type can leave a parenthesis open is shown by
`unbalanced_boxMember`: a sentence ends at the full stop of an abbreviation.
-/

namespace ProseGuard

open Program (TypeDecl Method)
open Comment (Member Proposition)
open Candidate (Element Pool)

namespace Guard

/-! ## Literal predicates -/

/-- An operand holds no parenthesis. -/
theorem Operand.isFlat_text (operand : Operand) : operand.text.IsFlat := by
  cases operand with
  | true => decide
  | false => decide
  | null => decide
  | number value => exact Text.isFlat_toString value

/-- Nor does a relation. -/
theorem Relation.isFlat_symbol (relation : Relation) : relation.symbol.IsFlat := by
  cases relation <;> decide

/-- A suffix is balanced unless it names a type that is not. -/
theorem Suffix.balanced_text_iff (suffix : Suffix) :
    suffix.text.Balanced ↔ ∀ type, suffix = .instanceOf type → type.Balanced := by
  cases suffix with
  | compare relation operand =>
      have hbalanced := relation.isFlat_symbol.balanced.append operand.isFlat_text.balanced
      exact ⟨fun _ type h => (nomatch h), fun _ => hbalanced⟩
  | instanceOf type =>
      have hlead : Text.Balanced " instanceof " := by decide
      show (" instanceof " ++ type).Balanced ↔ _
      rw [Text.balanced_append_iff hlead]
      exact ⟨fun h other heq => Suffix.instanceOf.inj heq ▸ h, fun h => h type rfl⟩

/-- The type that a predicate names behind "instanceof", if that is how it is read. -/
def namedType? (predicate : Text) : Option Text :=
  match Suffix.ofPredicate? predicate with
  | some (.instanceOf type) => some type
  | _ => none

/-- A predicate names a type exactly if its suffix tests for it. -/
theorem namedType?_eq_some_iff {predicate type : Text} :
    namedType? predicate = some type ↔ Suffix.ofPredicate? predicate = some (.instanceOf type) := by
  unfold namedType?
  split
  · next found hsuffix => simp [hsuffix]
  · next hother => exact ⟨fun h => (nomatch h), fun h => absurd h (hother type)⟩

/-- A number is compared with, whatever it is. -/
theorem Reading.ofLiteral_ne_instanceOf (l : Literal) (type : Text) :
    Reading.ofLiteral l ≠ .suffix (.instanceOf type) := by
  unfold Reading.ofLiteral
  cases l.value? <;> exact fun h => nomatch h

/-- Words of the catalogue give comparisons, so a type is read only where there are none. -/
theorem readingWithoutWords_of_readingOf {text type : Text}
    (h : readingOf text = .suffix (.instanceOf type)) :
    readingWithoutWords text = .suffix (.instanceOf type) := by
  unfold readingOf at h
  cases hnot : Text.firstMatch negatedWord [] text with
  | some meaning =>
      rw [hnot] at h
      exact nomatch h
  | none =>
      cases hnon : Text.firstMatch nonWord [] text with
      | some meaning =>
          rw [hnot, hnon] at h
          exact nomatch h
      | none =>
          cases hplain : Text.firstMatch plainWord [] text with
          | some meaning =>
              rw [hnot, hnon, hplain] at h
              exact nomatch h
          | none =>
              rw [hnot, hnon, hplain] at h
              exact h

/-- Without such words a type is read behind the first "instanceof". -/
theorem firstMatch_of_readingWithoutWords {text type : Text}
    (h : readingWithoutWords text = .suffix (.instanceOf type)) :
    Text.firstMatch instanceType [] text = some type := by
  unfold readingWithoutWords at h
  split at h
  · exact absurd h (Reading.ofLiteral_ne_instanceOf _ type)
  · split at h
    · exact nomatch h
    · split at h
      · next found hfound => rw [hfound, Suffix.instanceOf.inj (Reading.suffix.inj h)]
      · exact nomatch h

/-- The type that a predicate names is the rest of the line behind "instanceof". -/
theorem exists_line_of_namedType {predicate type : Text}
    (h : namedType? predicate = some type) :
    ∃ before line, Text.trimmed predicate = before ++ ("instanceof " ++ line) ∧
      type = line.takeWhile fun c : Point => c ≠ '\n' := by
  have hreading : readingOf (Text.trimmed predicate) = .suffix (.instanceOf type) := by
    have hsuffix := namedType?_eq_some_iff.1 h
    unfold Suffix.ofPredicate? reading at hsuffix
    split at hsuffix
    · next hreading => rw [hreading, Option.some.inj hsuffix]
    · exact nomatch hsuffix
  have hmatch := firstMatch_of_readingWithoutWords (readingWithoutWords_of_readingOf hreading)
  obtain ⟨before, rest, htext, hread, -⟩ := Text.firstMatch_eq_some_iff.1 hmatch
  obtain ⟨line, hline, rfl⟩ := Option.map_eq_some_iff.1 hread
  rw [Text.after?_eq_some_iff] at hline
  exact ⟨before, line, hline ▸ htext, rfl⟩

/-- A type is part of the predicate that names it. -/
theorem subset_of_namedType {predicate type : Text} (h : namedType? predicate = some type) :
    type ⊆ predicate := by
  obtain ⟨before, line, htext, rfl⟩ := exists_line_of_namedType h
  intro c hc
  have hline : c ∈ before ++ ("instanceof " ++ line) :=
    List.mem_append_right _ (List.mem_append_right _ ((List.takeWhile_sublist _).subset hc))
  rw [← htext] at hline
  exact Text.trimWhere_subset _ _ hline

end Guard

open Guard (Suffix)

/-- Every type that a text names behind "instanceof" is balanced. -/
def NamesBalancedTypes (text : Text) : Prop :=
  ∀ p ∈ Comment.propositions text, ∀ type ∈ Guard.namedType? p.predicate, type.Balanced

instance (text : Text) : Decidable (NamesBalancedTypes text) :=
  inferInstanceAs (Decidable (∀ p ∈ Comment.propositions text,
    ∀ type ∈ Guard.namedType? p.predicate, type.Balanced))

/-- A text without parentheses names balanced types only. -/
theorem namesBalancedTypes_of_isFlat {text : Text} (h : text.IsFlat) : NamesBalancedTypes text := by
  intro p hp type htype
  have hpart : ∀ c ∈ type, c ∈ text ∨ c ∈ (" been" : Text) := fun c hc =>
    Comment.mem_of_mem_predicate hp (Guard.subset_of_namedType htype hc)
  have hflat : type.IsFlat := ⟨fun hc => (hpart _ hc).elim h.no_open (by decide),
    fun hc => (hpart _ hc).elim h.no_close (by decide)⟩
  exact hflat.balanced

namespace Context

/-- The negation of a balanced condition is balanced. -/
theorem balanced_negated {condition : Text} (h : condition.Balanced) :
    (negated condition).Balanced := by
  have htail : Text.Balanced " == false" := by decide
  have hparts : negated condition = Text.enclosed condition ++ " == false" := by
    show "(" ++ condition ++ ") == false" = "(" ++ condition ++ ")" ++ " == false"
    rw [List.append_assoc _ (")" : Text)]
    rfl
  rw [hparts]
  exact h.enclosed.append htail

variable {ctx : Context} {member : Member}

section Names

variable (hnames : ctx.BalancedNames member) {subject : Element}
  (hsubject : subject.expression.Balanced)

include hnames hsubject

/-- What a predicate states of a subject is balanced unless it names a type that is not. -/
theorem balanced_statement_iff {predicate c : Text}
    (h : ctx.statement? member subject predicate = some c) :
    c.Balanced ↔ ∀ type ∈ Guard.namedType? predicate, type.Balanced := by
  unfold statement? at h
  simp only [Option.mem_def, Guard.namedType?_eq_some_iff]
  cases hsuffix : Suffix.ofPredicate? predicate with
  | some suffix =>
      rw [hsuffix] at h
      rw [← Option.some.inj h, Text.balanced_append_iff hsubject, Suffix.balanced_text_iff]
      simp only [Option.some.injEq]
  | none =>
      rw [hsuffix] at h
      obtain ⟨e, he, rfl⟩ := Option.map_eq_some_iff.1 h
      rw [Candidate.nearest_eq] at he
      have hreachable := (List.mem_filter.1 (List.mem_of_mem_head? he)).1
      exact ⟨fun _ type htype => (nomatch htype),
        fun _ => balanced_of_mem_reachable hnames hsubject hreachable⟩

/-- So is the condition that it states or denies. -/
theorem balanced_condition {predicate c : Text} {negate : Bool}
    (htypes : ∀ type ∈ Guard.namedType? predicate, type.Balanced)
    (h : ctx.condition? member subject predicate negate = some c) : c.Balanced := by
  unfold condition? at h
  cases hstated : ctx.statement? member subject predicate with
  | none =>
      rw [hstated] at h
      exact nomatch h
  | some stated =>
      have hbalanced := (balanced_statement_iff hnames hsubject hstated).2 htypes
      rw [hstated] at h
      simp only [] at h
      split at h
      · exact nomatch h
      · rw [← Option.some.inj h]
        split
        · exact balanced_negated hbalanced
        · exact hbalanced

end Names

/-- Every candidate of a member has a balanced expression. -/
theorem balanced_of_mem_pool (hnames : ctx.BalancedNames member) {pool : Pool}
    (hpool : (ctx.collect member).result = .ok pool) {e : Element} (he : e ∈ pool.elements) :
    e.expression.Balanced := by
  obtain ⟨type, executable, hresolves, hcandidate⟩ := isCandidate_of_mem hpool he
  exact hcandidate.balanced hnames (Program.mem_of_find? hresolves.type_found)

/-- A proposition states balanced conditions unless it names a type that is not balanced. -/
theorem statesBalanced_of_types (hnames : ctx.BalancedNames member) {p : Proposition}
    (htypes : ∀ type ∈ Guard.namedType? p.predicate, type.Balanced) :
    ctx.StatesBalanced member p := by
  intro subjects conditions hstated c hc
  obtain ⟨pool, hpool, rfl, -⟩ := stated_iff.1 hstated
  obtain ⟨e, he, hmatch⟩ := Run.exists_of_mem_right hstated.answers hc
  rw [named, Candidate.nearest_eq] at he
  rw [result_matchPredicate, Except.ok.injEq] at hmatch
  exact balanced_condition hnames
    (balanced_of_mem_pool hnames hpool (List.mem_filter.1 he).1) htypes hmatch

/-- A comment has a balanced condition if its propositions state balanced ones. -/
theorem balanced_of_textCondition {text condition : Text} {found : List Proposition}
    (hread : (ctx.source.read text).result = .ok found)
    (hbalanced : ∀ p ∈ found, ctx.StatesBalanced member p)
    (h : (ctx.textCondition member text).result = .ok (some condition)) : condition.Balanced := by
  obtain ⟨answers, hanswers, hne, rfl⟩ := answers_of_textCondition_eq_some hread h
  refine balanced_joined (by decide) hne fun c hc => ?_
  obtain ⟨answer, hanswer, rfl⟩ := List.mem_filterMap.1 hc
  obtain ⟨p, hp, hcondition⟩ := Run.exists_of_mem_right hanswers hanswer
  exact balanced_of_propositionCondition (hbalanced p (List.mem_filter.1 hp).1) hcondition

/-- With balanced names, a condition stated of a candidate is balanced exactly if the type that the
predicate names behind "instanceof", should it name one, is. Sentences cut at their verbs give each
member guards, and these have balanced conditions as long as each comment names balanced types only
or holds no parentheses at all. -/
theorem balanced_memberGuards (ctx : Context) (member : Member)
    (hsource : ctx.source = .pattern) (hnames : ctx.BalancedNames member) :
    (∀ (pool : Pool) (e : Element) (predicate c : Text),
      (ctx.collect member).result = .ok pool → e ∈ pool.elements →
      (ctx.matchPredicate member e predicate false).result = .ok (some c) →
      (c.Balanced ↔ ∀ type ∈ Guard.namedType? predicate, type.Balanced)) ∧
    ∃ guards, (ctx.memberGuards member).result = .ok guards ∧
      ((∀ text ∈ tagTexts member, NamesBalancedTypes text ∨ text.IsFlat) →
        ∀ guard ∈ guards.preconditions ++ guards.throws, ∀ c, guard.condition = some c →
          c.Balanced) := by
  have hread : ∀ text, (ctx.source.read text).result = .ok (Comment.propositions text) := by
    intro text
    rw [hsource]
    rfl
  constructor
  · -- nothing is negated here: a negation can close what an unbalanced condition leaves open
    intro pool e predicate c hpool he hmatch
    rw [result_matchPredicate, Except.ok.injEq, condition?] at hmatch
    cases hstated : ctx.statement? member e predicate with
    | none =>
        rw [hstated] at hmatch
        exact nomatch hmatch
    | some stated =>
        rw [hstated] at hmatch
        simp only [] at hmatch
        split at hmatch
        · exact nomatch hmatch
        · obtain rfl : stated = c := Option.some.inj hmatch
          exact balanced_statement_iff hnames (balanced_of_mem_pool hnames hpool he) hstated
  · obtain ⟨guards, hguards⟩ :=
      exists_memberGuards_iff.2 fun text (_ : text ∈ tagTexts member) => ⟨_, hread text⟩
    refine ⟨guards, hguards, fun htexts guard hguard c hc => ?_⟩
    obtain ⟨text, htext, hcondition⟩ := exists_text_of_mem_guards hguards hguard
    rw [hc] at hcondition
    have htypes : NamesBalancedTypes text :=
      (htexts text htext).elim id namesBalancedTypes_of_isFlat
    exact balanced_of_textCondition (hread text)
      (fun p hp => statesBalanced_of_types hnames (htypes p hp)) hcondition

/-! ## A comment that names a type -/

/-- A method that takes any object. -/
def putMethod : Method where
  name := "put"
  parameters := [⟨"value", "java.lang.Object"⟩]
  declaringType := "Box"

/-- The type that declares it. -/
def boxType : TypeDecl where
  name := "Box"
  methods := [putMethod]

/-- The documented method, with a comment on its parameter. -/
def boxMember (comment : Text) : Member where
  name := "put"
  containingType := "Box"
  parameters := [⟨"value", "java.lang.Object"⟩]
  paramTags := [⟨"value", comment⟩]

/-- Standard settings, and sentences cut at their verbs. -/
def boxContext : Context where
  program := .ofTypes [boxType]
  source := .pattern
  settings := .standard

theorem balancedNames_boxContext (comment : Text) :
    boxContext.BalancedNames (boxMember comment) := by
  refine .of_isFlat (by decide) ?_ (by decide) (by decide)
  intro p hp
  rw [List.mem_singleton.1 hp]
  decide

/-- A parenthesis that is closed within the line is copied whole. -/
theorem balanced_boxMember :
    ∃ guards, (boxContext.memberGuards
        (boxMember "must be instanceof List (a stack)")).result = .ok guards ∧
      ∀ guard ∈ guards.preconditions ++ guards.throws, ∀ c, guard.condition = some c →
        c.Balanced := by
  obtain ⟨-, guards, hguards, hbalanced⟩ := balanced_memberGuards boxContext
    (boxMember "must be instanceof List (a stack)") rfl (balancedNames_boxContext _)
  refine ⟨guards, hguards, hbalanced fun text htext => .inl ?_⟩
  rw [List.mem_singleton.1 htext]
  decide

/-- A comment with a parenthesis that holds the end of a sentence. -/
def listComment : Text :=
  "must be instanceof List (e.g. a stack)"

/-- The pool of the method. -/
def boxPool : Pool :=
  .ofOffers [
    Candidate.typeElement boxType "target",
    Candidate.parameterElement "value" 0 "java.lang.Object" ["instanceof", "stack"] true]

theorem resolves_boxMember :
    boxContext.program.Resolves (boxMember listComment) boxType (.method putMethod) :=
  .of_no_supertypes (by decide) rfl rfl (by decide)

theorem collect_boxMember : (boxContext.collect (boxMember listComment)).result = .ok boxPool := by
  have hmined : (boxMember listComment).parameters.mapM
      (boxContext.minedFor (boxMember listComment)) =
        .ok [⟨"value", "java.lang.Object", ["instanceof", "stack"]⟩] := by
    rw [Run.mapM_eq_ok_iff]
    refine .cons (minedFor_eq_ok_iff.2 ⟨rfl, rfl, ?_⟩) .nil
    exact congrArg Except.ok (by decide)
  have hoffers : boxContext.offers (boxMember listComment) boxType (.method putMethod)
      [⟨"value", "java.lang.Object", ["instanceof", "stack"]⟩] = [
        Candidate.typeElement boxType "target",
        Candidate.parameterElement "value" 0 "java.lang.Object" ["instanceof", "stack"] true] := by
    rw [offers, callElements, Program.methods_of_no_supertypes _ rfl,
      Program.fields_of_no_supertypes _ rfl]
    decide
  rw [result_collect _ _ resolves_boxMember, hmined, Run.ok_map, hoffers, boxPool]

/-- No name holds a parenthesis, and yet the condition leaves one open: the sentence ends at the
abbreviation, and the type that it names at the end of the sentence. -/
theorem unbalanced_boxMember :
    boxContext.source = .pattern ∧ boxContext.BalancedNames (boxMember listComment) ∧
    (∀ t ∈ boxContext.program.types, t.name.IsFlat) ∧
    (boxContext.memberGuards (boxMember listComment)).result =
      .ok ⟨"Box.put(java.lang.Object value)", [⟨.param, "value", listComment,
        some "value instanceof List (e.g"⟩], []⟩ ∧
    ¬ Text.Balanced "value instanceof List (e.g" := by
  have hproposition : (boxContext.propositionCondition (boxMember listComment)
      ⟨"value", "instanceof List (e.g", false, "instanceof"⟩).result =
        .ok (some "value instanceof List (e.g") := by
    rw [result_propositionCondition, collect_boxMember, Run.ok_map]
    exact congrArg Except.ok (by decide)
  have hread : (boxContext.source.read (Comment.supplySubject "value" listComment)).result =
      .ok [⟨"value", "instanceof List (e.g", false, "instanceof"⟩,
        ⟨"a stack)", "", false, "stack"⟩] :=
    congrArg Except.ok (by decide)
  refine ⟨rfl, balancedNames_boxContext _, by decide, ?_, by decide⟩
  refine memberGuards_eq_ok_iff.2 ⟨by decide, .cons ?_ .nil, .nil⟩
  rw [result_paramGuard, result_textCondition hread (.cons hproposition .nil)]
  rfl

end Context

end ProseGuard
