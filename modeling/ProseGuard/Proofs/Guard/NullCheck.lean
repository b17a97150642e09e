import ProseGuard.Proofs.Candidate.Expressions
import ProseGuard.Proofs.Guard.Parentheses
import ProseGuard.Proofs.Guard.Readings

/-!
# Checks for null

What literal predicates state of the candidates of a member. The one condition that is left out is
known by its text, and of all predicates only the one that compares with null can give that text
(`append_text_eq_iff`), since a predicate that speaks of null is not read as a test for a type. Main
statement: `condition_of_literal`, which also says which candidates can be written as the object
itself is. A parameter of the receiver's name can, as `condition_copierMember` shows.
-/

namespace ProseGuard

open Program (TypeDecl Method Parameter)
open Comment (Member)
open Candidate (Element Pool)
open Guard (Suffix)

/-! ## Texts that end in a check for null -/

namespace Guard

open Text (firstMatch isWordChar)

/-- The word for null is read where it ends. -/
theorem wordAt_null {behind : Text} (h : ∀ c ∈ behind.head?, isWordChar c = false) :
    wordAt catalogue ("null" ++ behind) = some (.eq, .null) := by
  cases behind with
  | nil => decide
  | cons c cs =>
      have hc : isWordChar c = false := h c rfl
      simp [wordAt, catalogue, Text.ofString, Text.after?, hc]

/-- Where a type is read, no plain word stands. -/
theorem firstMatch_plainWord_of_readingOf {text type : Text}
    (h : readingOf text = .suffix (.instanceOf type)) : firstMatch plainWord [] text = none := by
  unfold readingOf at h
  cases hplain : firstMatch plainWord [] text with
  | none => rfl
  | some meaning =>
      rw [hplain] at h
      split at h
      · exact nomatch h
      · split at h <;> exact nomatch h

/-- The type that a predicate names ends where the line or the predicate does. -/
theorem exists_behind_of_namedType {predicate type : Text} (h : namedType? predicate = some type) :
    ∃ before behind, Text.trimmed predicate = before ++ ("instanceof " ++ (type ++ behind)) ∧
      ∀ c ∈ behind.head?, c = '\n' := by
  obtain ⟨before, line, htext, rfl⟩ := exists_line_of_namedType h
  refine ⟨before, line.dropWhile fun c : Point => c ≠ '\n', ?_, fun c hc => ?_⟩
  · rw [List.takeWhile_append_dropWhile, htext]
  · have hfirst := List.head?_dropWhile_not (fun c : Point => decide (c ≠ '\n')) line
    rw [Option.mem_def.1 hc] at hfirst
    simpa using hfirst

/-- The type that a predicate names does not end in a check for null. -/
theorem namedType_ne_append {predicate type : Text} (h : namedType? predicate = some type)
    (start : Text) : type ≠ start ++ "==null" := by
  rintro rfl
  obtain ⟨before, behind, htext, hbehind⟩ := exists_behind_of_namedType h
  have hnone := firstMatch_plainWord_of_readingOf
    (ofPredicate?_eq_some_iff.1 (namedType?_eq_some_iff.1 h))
  -- the word for null would be read behind the equal signs
  have hplace : Text.trimmed predicate =
      (before ++ ("instanceof " ++ (start ++ "=="))) ++ ("null" ++ behind) := by
    rw [htext]
    simp [List.append_assoc, Text.ofString]
  have hread := Text.firstMatch_eq_none_iff.1 hnone _ _ hplace
  have hend : ∀ c ∈ behind.head?, isWordChar c = false := by
    intro c hc
    rw [hbehind c hc]
    decide
  have hword : plainWord ((before ++ ("instanceof " ++ (start ++ "=="))).reverse ++ [])
      ("null" ++ behind) = some (.eq, .null) := by
    refine plainWord_eq_some_iff.2 ⟨fun c hc => ?_, wordAt_null hend⟩
    obtain rfl : c = .char '=' := by
      simpa [Text.ofString, eq_comm] using hc
    decide
  exact Option.some_ne_none _ (hword.symm.trans hread)

/-- Of the operands, only null ends in the letter that it ends in. -/
theorem eq_null_of_getLast? {before : Text} {relation : Relation} {operand : Operand}
    (h : (before ++ (relation.symbol ++ operand.text)).getLast? = some (.char 'l')) :
    operand = .null := by
  rw [List.getLast?_append, List.getLast?_append] at h
  cases operand with
  | null => rfl
  | true => exact absurd h (by simp [Operand.text, Text.ofString])
  | false => exact absurd h (by simp [Operand.text, Text.ofString])
  | number value =>
      -- the letter is neither in the number nor the last character of a relation
      have hnumber : (.char 'l' : Point) ∉ (Operand.number value).text :=
        Text.not_mem_toString value (by decide) (by decide)
      cases hlast : (Operand.number value).text.getLast? with
      | none =>
          rw [hlast] at h
          cases relation <;> simp [Relation.symbol, Text.ofString] at h
      | some c =>
          rw [hlast] at h
          obtain rfl : c = .char 'l' := Option.some.inj h
          exact absurd (List.mem_of_getLast? hlast) hnumber

/-- Of the comparisons, only the one that asks whether a value is null ends in a check for null. -/
theorem append_compare_eq {a b : Text} {relation : Relation} {operand : Operand}
    (h : a ++ (Suffix.compare relation operand).text = b ++ "==null") :
    relation = .eq ∧ operand = .null ∧ a = b := by
  have hlast : (a ++ (relation.symbol ++ operand.text)).getLast? = some (.char 'l') := by
    have hend := congrArg List.getLast? h
    rwa [List.getLast?_append_of_ne_nil b (by decide)] at hend
  obtain rfl := eq_null_of_getLast? hlast
  have hsymbol : a ++ relation.symbol = b ++ "==" := by
    have hcut : (a ++ relation.symbol) ++ "null" = (b ++ "==") ++ "null" := by
      rw [List.append_assoc, List.append_assoc]
      exact h
    exact List.append_cancel_right hcut
  have hreverse := congrArg List.reverse hsymbol
  cases relation with
  | eq => exact ⟨rfl, rfl, List.append_cancel_right hsymbol⟩
  | le | ge | lt | gt | ne => simp [Relation.symbol, Text.ofString] at hreverse

/-- A condition that a literal predicate states is a check for null exactly if the predicate says so
of what is checked. -/
theorem append_text_eq_iff {a b predicate : Text} {s : Suffix}
    (hs : Suffix.ofPredicate? predicate = some s) :
    a ++ s.text = b ++ "==null" ↔ s.text = "==null" ∧ a = b := by
  constructor
  · intro h
    cases s with
    | compare relation operand =>
        obtain ⟨rfl, rfl, rfl⟩ := append_compare_eq h
        exact ⟨rfl, rfl⟩
    | instanceOf type =>
        have hnamed := namedType?_eq_some_iff.2 hs
        have hcut : (a ++ " instanceof ") ++ type = b ++ "==null" := by
          rw [List.append_assoc]
          exact h
        rcases List.append_eq_append_iff.1 hcut with ⟨start, -, htype⟩ | ⟨seam, hseam, hnull⟩
        · exact absurd htype (namedType_ne_append hnamed start)
        · -- the blank before the type would stand in the check for null
          cases seam with
          | nil => exact absurd hnull.symm (namedType_ne_append hnamed [])
          | cons c cs =>
              have hblank : (c :: cs).getLast? = some (.char ' ') := by
                rw [← List.getLast?_append_of_ne_nil b (List.cons_ne_nil c cs), ← hseam,
                  List.getLast?_append_of_ne_nil a (by decide)]
                rfl
              have hmem : (.char ' ' : Point) ∈ ("==null" : Text) := by
                rw [hnull]
                exact List.mem_append_left _ (List.mem_of_getLast? hblank)
              exact absurd hmem (by decide)
  · rintro ⟨htext, rfl⟩
    rw [htext]

end Guard

namespace Context

/-- An element is the parameter that has the receiver's name, written by its name. -/
structure IsNamesake (ctx : Context) (member : Member) (e : Element) : Prop where
  kind : e.kind = .parameter
  style : ctx.settings.parameterStyle = .name
  place : ∃ i : Nat, ∃ p, member.parameters[i]? = some p ∧ e.index = some (i : Int) ∧
    p.name = ctx.receiver

variable {ctx : Context} {member : Member} {pool : Pool} {e : Element}

/-! ## Candidates that are written as the object itself -/

/-- The containing type is written as the object. -/
theorem IsCandidate.expression_type {type : TypeDecl} (h : ctx.IsCandidate member type e)
    (hkind : e.kind = .type) : e.expression = ctx.receiver := by
  cases h with
  | type => rfl
  | parameter i p words hp => exact nomatch hkind
  | call m args hm hargs =>
      rw [kind_callElement] at hkind
      split at hkind <;> exact nomatch hkind
  | field f hf => exact nomatch hkind

/-- What is asked of the object is not written as it is. -/
theorem IsCandidate.expression_ne_receiver {type : TypeDecl} (h : ctx.IsCandidate member type e)
    (hkind : e.kind = .method ∨ e.kind = .field) : e.expression ≠ ctx.receiver := by
  have hlonger : ∀ rest : Text, ctx.receiver ++ ("." ++ rest) ≠ ctx.receiver := by
    intro rest heq
    have hnil : ("." : Text) ++ rest = [] := List.append_right_eq_self.1 heq
    exact nomatch hnil
  cases h with
  | type => rcases hkind with hkind | hkind <;> exact nomatch hkind
  | parameter i p words hp => rcases hkind with hkind | hkind <;> exact nomatch hkind
  | call m args hm hargs =>
      rw [kind_callElement] at hkind
      unfold callElement
      split at hkind
      · rcases hkind with hkind | hkind <;> exact nomatch hkind
      · next hdynamic =>
        rw [if_neg hdynamic]
        show ctx.receiver ++ "." ++ m.name ++ "(" ++ Text.join ", " args ++ ")" ≠ ctx.receiver
        simp only [List.append_assoc]
        exact hlonger _
  | field f hf =>
      show ctx.receiver ++ "." ++ f.name ≠ ctx.receiver
      rw [List.append_assoc]
      exact hlonger _

/-- Where the receiver is an identifier, only its namesake among the parameters is written as it. -/
theorem IsCandidate.isNamesake {type : TypeDecl} (hreceiver : IsIdentifier ctx.receiver)
    (h : ctx.IsCandidate member type e) (heq : e.expression = ctx.receiver) :
    e.kind = .type ∨ ctx.IsNamesake member e := by
  cases h with
  | type => exact .inl rfl
  | parameter i p words hp =>
      rw [expression_parameterElement, parameterExpression] at heq
      split at heq
      · next hstyle => exact .inr ⟨rfl, hstyle, i, p, hp, rfl, heq⟩
      · refine absurd ?_ (hreceiver.no_mark '[' (by decide))
        rw [← heq]
        exact List.mem_append_left _ (List.mem_append_left _ (by decide))
  | call m args hm hargs =>
      obtain ⟨qualifier, -, hcall⟩ := exists_qualifier hreceiver m args
      refine absurd ?_ (hreceiver.no_mark '.' (by decide))
      rw [← heq, hcall]
      simp [Candidate.compose, Text.ofString]
  | field f hf =>
      refine absurd ?_ (hreceiver.no_mark '.' (by decide))
      rw [← heq]
      show ('.' : Point) ∈ ctx.receiver ++ "." ++ f.name
      simp [Text.ofString]

/-! ## Conditions -/

/-- A literal predicate states of a candidate what its suffix says, or the contrary. Nothing is
stated only where the suffix checks for null what is written as the object itself is. The containing
type is written so, but nothing that is asked of the object, and where the receiver is an identifier
no other candidate than a parameter of its name. -/
theorem condition_of_literal (hpool : (ctx.collect member).result = .ok pool)
    (he : e ∈ pool.elements) {predicate : Text} {s : Suffix}
    (hs : Suffix.ofPredicate? predicate = some s) (negate : Bool) :
    (ctx.matchPredicate member e predicate negate).result =
        .ok (if s.text = "==null" ∧ e.expression = ctx.receiver then none
          else some (if negate then negated (e.expression ++ s.text)
            else e.expression ++ s.text)) ∧
      (e.kind = .type → e.expression = ctx.receiver) ∧
      (e.kind = .method ∨ e.kind = .field → e.expression ≠ ctx.receiver) ∧
      (IsIdentifier ctx.receiver → e.expression = ctx.receiver →
        e.kind = .type ∨ ctx.IsNamesake member e) := by
  obtain ⟨type, executable, -, hcandidate⟩ := isCandidate_of_mem hpool he
  refine ⟨?_, hcandidate.expression_type, hcandidate.expression_ne_receiver,
    fun hreceiver => hcandidate.isNamesake hreceiver⟩
  rw [result_matchPredicate, condition?, statement?, hs]
  simp only [degenerateCondition, Guard.append_text_eq_iff hs]

/-- It can be denied of the lower bound of a range that it is null. -/
theorem condition_of_literal_rangeMember :
    (rangeContext.collect rangeMember).result = .ok rangePool ∧
      Candidate.parameterElement "low" 0 "int" ["high"] true ∈ rangePool.elements ∧
      Suffix.ofPredicate? "is null" = some (.compare .eq .null) ∧
      (rangeContext.matchPredicate rangeMember
          (Candidate.parameterElement "low" 0 "int" ["high"] true) "is null" true).result =
        .ok (some "(low==null) == false") := by
  have he : Candidate.parameterElement "low" 0 "int" ["high"] true ∈ rangePool.elements := by
    decide
  have hs : Suffix.ofPredicate? "is null" = some (.compare .eq .null) := by decide
  have hcondition := (condition_of_literal collect_rangeMember he hs true).1
  refine ⟨collect_rangeMember, he, hs, hcondition.trans ?_⟩
  rw [if_neg (by decide)]
  rfl

/-! ## A parameter with the receiver's name -/

/-- The documented method. -/
def copyMethod : Method where
  name := "copy"
  parameters := [⟨"target", "java.lang.Object"⟩]
  declaringType := "Copier"

/-- The type that declares it. -/
def copierType : TypeDecl where
  name := "Copier"
  methods := [copyMethod]

/-- The method as it is documented. -/
def copierMember : Member where
  name := "copy"
  containingType := "Copier"
  parameters := [⟨"target", "java.lang.Object"⟩]

/-- Standard settings, by which the receiver is written so too. -/
def copierContext : Context where
  program := .ofTypes [copierType]
  source := .pattern
  settings := .standard

/-- The parameter among the candidates. -/
def targetElement : Element :=
  Candidate.parameterElement "target" 0 "java.lang.Object" [] true

theorem resolves_copierMember :
    copierContext.program.Resolves copierMember copierType (.method copyMethod) :=
  .of_no_supertypes (by decide) rfl rfl (by decide)

theorem collect_copierMember :
    (copierContext.collect copierMember).result =
      .ok (.ofOffers [Candidate.typeElement copierType "target", targetElement]) := by
  have hmined : copierMember.parameters.mapM (copierContext.minedFor copierMember) =
      .ok [⟨"target", "java.lang.Object", []⟩] :=
    Run.mapM_eq_ok_iff.2 (.cons (minedFor_eq_ok_iff.2 ⟨rfl, rfl, rfl⟩) .nil)
  have hoffers : copierContext.offers copierMember copierType (.method copyMethod)
      [⟨"target", "java.lang.Object", []⟩] =
        [Candidate.typeElement copierType "target", targetElement] := by
    rw [offers, callElements, Program.methods_of_no_supertypes _ rfl,
      Program.fields_of_no_supertypes _ rfl]
    decide
  rw [result_collect _ _ resolves_copierMember, hmined, Run.ok_map, hoffers]

/-- A parameter of the receiver's name cannot be said to be null. -/
theorem condition_copierMember :
    ∃ pool, (copierContext.collect copierMember).result = .ok pool ∧
      targetElement ∈ pool.elements ∧ targetElement.kind ≠ .type ∧
      Suffix.ofPredicate? "is null" = some (.compare .eq .null) ∧
      (copierContext.matchPredicate copierMember targetElement "is null" false).result =
        .ok none := by
  have hs : Suffix.ofPredicate? "is null" = some (.compare .eq .null) := by decide
  refine ⟨_, collect_copierMember, by decide, by decide, hs, ?_⟩
  rw [result_matchPredicate, condition?, statement?, hs]
  exact congrArg Except.ok (if_pos (by decide))

end Context

end ProseGuard
