import ProseGuard.Proofs.Guard.Polarity
import ProseGuard.Proofs.Guard.SelfCall
import ProseGuard.Proofs.Text.Number

/-!
# Truth values

Which conditions have a truth value. Whatever can be asked of a subject has one, by its type or as a
comparison, but for the length of an array, which stands beside the question whether the array is
empty (`mem_questions_cases`). Main statement: `truths_reached`, which says so of the elements that
are reached from a subject and of the conditions that they become; `length_reached_sinkMember` shows
an array whose length is taken for a condition.
-/

namespace ProseGuard

open Program (TypeDecl Method Executable)
open Comment (Member)
open Candidate (Element Pool)
open Guard (Relation Operand Suffix)

namespace Guard

/-- An expression compares something with a literal. -/
def IsComparison (expression : Text) : Prop :=
  ∃ value relation operand, value ≠ [] ∧
    expression = value ++ (Suffix.compare relation operand).text

/-- Neither an operator nor a literal holds the letter that the word length ends in. -/
theorem not_mem_compare (relation : Relation) (operand : Operand) :
    (.char 'h' : Point) ∉ (Suffix.compare relation operand).text := by
  intro h
  rcases List.mem_append.1 h with h | h
  · cases relation <;> exact absurd h (by decide)
  · cases operand with
    | number value => exact Text.not_mem_toString value (by decide) (by decide) h
    | true | false | null => exact absurd h (by decide)

/-- A length is no comparison. -/
theorem not_isComparison_length (receiver : Text) : ¬ IsComparison (receiver ++ ".length") := by
  rintro ⟨value, relation, operand, -, h⟩
  have hne : (Suffix.compare relation operand).text ≠ [] := by
    cases relation <;> exact List.cons_ne_nil _ _
  have hlast := congrArg List.getLast? h
  rw [List.getLast?_append_of_ne_nil receiver (by decide),
    List.getLast?_append_of_ne_nil value hne] at hlast
  exact not_mem_compare relation operand (List.mem_of_getLast? hlast.symm)

end Guard

namespace Candidate.Element

/-- An element denotes a truth value: by the type of its value, or as a comparison. -/
def IsTruth (e : Element) : Prop :=
  (∃ type, e.valueType = some type ∧ Program.isBooleanName type) ∨
    Guard.IsComparison e.expression

/-- The value that an element denotes is an array. -/
def IsArray (e : Element) : Prop :=
  ∃ type, e.valueType = some type ∧ Program.isArrayName type

end Candidate.Element

namespace Context

/-- The length of an array. -/
def lengthElement (receiver : Text) : Element :=
  Candidate.derivedElement (receiver ++ ".length") "length"

/-- The conditions that have a truth value: elements that denote one, and what is denied of such a
condition. -/
inductive HasTruth (elements : List Element) : Text → Prop
  | element {e : Element} : e ∈ elements → e.IsTruth → HasTruth elements e.expression
  | denied {condition : Text} : HasTruth elements condition → HasTruth elements (negated condition)

variable {ctx : Context} {member : Member} {e subject : Element} {receiver : Text}

/-! ## Questions -/

/-- A length denotes no truth value. -/
theorem not_isTruth_lengthElement (receiver : Text) : ¬ (lengthElement receiver).IsTruth := by
  rintro (⟨type, hvalue, -⟩ | hcomparison)
  · exact nomatch hvalue
  · exact Guard.not_isComparison_length receiver hcomparison

/-- Of an array it is asked whether its length is zero, and how long it is. -/
theorem mem_arrayMembers_cases (h : e ∈ arrayMembers receiver) :
    e.IsTruth ∨ e = lengthElement receiver := by
  rcases List.mem_cons.1 h with rfl | h
  · refine .inl (.inr ⟨receiver ++ ".length", .eq, .number 0, ?_, ?_⟩)
    · exact List.append_ne_nil_of_right_ne_nil receiver (by decide)
    · exact (List.append_assoc receiver ".length" "==0").symm
  · exact .inr (List.mem_singleton.1 h)

/-- The boolean members of a type denote truth values, fields and methods alike. -/
theorem isTruth_of_mem_booleanMembers {program : Program} {type : TypeDecl}
    (h : e ∈ booleanMembers program type receiver) : e.IsTruth := by
  rcases List.mem_append.1 h with h | h
  · obtain ⟨f, hf, rfl⟩ := List.mem_map.1 h
    exact .inl ⟨f.type, rfl, (List.mem_filter.1 hf).2⟩
  · obtain ⟨m, hm, rfl⟩ := List.mem_map.1 h
    exact .inl ⟨m.returnType, rfl, (Bool.and_eq_true_iff.1 (List.mem_filter.1 hm).2).2⟩

/-- A static method that tests a value has a truth value. -/
theorem isBooleanName_of_testsValue {valueType : Option Text} {m : Method}
    (h : testsValue valueType m) : Program.isBooleanName m.returnType := by
  unfold testsValue at h
  exact (Bool.and_eq_true_iff.1 (Bool.and_eq_true_iff.1 h).1).2

/-- The static tests of a parameter denote truth values. -/
theorem isTruth_of_mem_staticTests {containingType : Text}
    (h : e ∈ ctx.staticTests containingType subject) : e.IsTruth := by
  unfold staticTests at h
  split at h
  · exact absurd h List.not_mem_nil
  · obtain ⟨m, hm, rfl⟩ := List.mem_map.1 h
    exact .inl ⟨m.returnType, rfl, isBooleanName_of_testsValue (List.mem_filter.1 hm).2⟩

/-- What can be asked of a subject denotes a truth value, or it is the length of an array. -/
theorem mem_questions_cases (h : e ∈ ctx.questions member subject) :
    e.IsTruth ∨ subject.IsArray ∧ e = lengthElement subject.expression := by
  rcases List.mem_append.1 h with h | h
  · unfold membersOf at h
    split at h
    · exact absurd h List.not_mem_nil
    · next name hvalue =>
      split at h
      · exact absurd h List.not_mem_nil
      · split at h
        · next harray =>
          exact (mem_arrayMembers_cases h).imp_right fun he => ⟨⟨name, hvalue, harray⟩, he⟩
        · split at h
          · exact absurd h List.not_mem_nil
          · exact .inl (isTruth_of_mem_booleanMembers h)
  · split at h
    · exact .inl (isTruth_of_mem_staticTests h)
    · exact absurd h List.not_mem_nil

/-! ## What is reached -/

/-- From a subject that is neither a field nor derived, whatever can be asked of it is reached. -/
theorem reachable_eq_questions (hfield : subject.kind ≠ .field)
    (hderived : subject.kind ≠ .derived) :
    ctx.reachable member subject = distinctBy Element.identity (ctx.questions member subject) := by
  unfold reachable questions
  cases hkind : subject.kind with
  | parameter => rfl
  | type | method | staticMethod => simp only [reduceCtorEq, if_false, List.append_nil]
  | field => exact absurd hkind hfield
  | derived => exact absurd hkind hderived

/-- From a field and a derived element nothing is reached. -/
theorem reachable_eq_nil (hkind : subject.kind = .field ∨ subject.kind = .derived) :
    ctx.reachable member subject = [] := by
  unfold reachable
  rcases hkind with hkind | hkind
  · rw [hkind]
  · rw [hkind]

/-- What is reached from a subject can be asked of it. -/
theorem mem_questions_of_mem_reachable (h : e ∈ ctx.reachable member subject) :
    e ∈ ctx.questions member subject := by
  by_cases hkind : subject.kind = .field ∨ subject.kind = .derived
  · rw [reachable_eq_nil hkind] at h
    exact absurd h List.not_mem_nil
  · obtain ⟨hfield, hderived⟩ := not_or.1 hkind
    rw [reachable_eq_questions hfield hderived] at h
    exact mem_of_mem_distinctBy h

/-- The length of an array is reached from it, for it is told apart from what stands before it. -/
theorem lengthElement_mem_reachable (harray : subject.IsArray) (hfield : subject.kind ≠ .field)
    (hderived : subject.kind ≠ .derived) :
    lengthElement subject.expression ∈ ctx.reachable member subject := by
  obtain ⟨name, hvalue, hname⟩ := harray
  have hne : name ≠ "" := by
    rintro rfl
    exact absurd hname (by decide)
  have hmembers : ctx.membersOf subject.expression subject.valueType =
      arrayMembers subject.expression := by
    rw [hvalue]
    unfold membersOf
    simp only [if_neg hne, hname, if_true]
  have hlength : (lengthElement subject.expression).identity ≠
      (Candidate.derivedElement (subject.expression ++ ".length==0") "isEmpty").identity := by
    intro h
    have hkey := Candidate.Key.text.inj (Candidate.Key.cons.inj (congrArg Prod.snd h)).1
    exact absurd (List.append_cancel_left hkey) (by decide)
  rw [reachable_eq_questions hfield hderived, questions, hmembers, arrayMembers]
  refine List.mem_cons_of_mem _ (List.mem_filter.2 ⟨List.mem_cons_self, ?_⟩)
  exact decide_eq_true hlength

/-- Exactly from an array is something reached that denotes no truth value. -/
theorem forall_isTruth_reachable_iff :
    (∀ e ∈ ctx.reachable member subject, e.IsTruth) ↔
      (subject.IsArray → subject.kind = .field ∨ subject.kind = .derived) := by
  constructor
  · intro htruths harray
    by_contra hkind
    obtain ⟨hfield, hderived⟩ := not_or.1 hkind
    exact not_isTruth_lengthElement subject.expression
      (htruths _ (lengthElement_mem_reachable harray hfield hderived))
  · intro harray e he
    rcases mem_questions_cases (mem_questions_of_mem_reachable he) with htruth | ⟨hsubject, -⟩
    · exact htruth
    · rw [reachable_eq_nil (harray hsubject)] at he
      exact absurd he List.not_mem_nil

/-! ## Conditions -/

/-- Without a literal, a predicate states of a subject what is reached from it, or nothing. -/
theorem exists_chosen (ctx : Context) (member : Member) (subject : Element) {predicate : Text}
    (hother : Suffix.ofPredicate? predicate = none) (negate : Bool) :
    ∃ chosen : Option Element, (∀ e ∈ chosen, e ∈ ctx.reachable member subject) ∧
      ctx.condition? member subject predicate negate =
        chosen.map fun e => if negate then negated e.expression else e.expression := by
  unfold condition? statement?
  rw [hother]
  cases hhead : (Candidate.nearest (Element.distance (Text.trimmed predicate))
      ctx.settings.threshold (ctx.reachable member subject)).head? with
  | none => exact ⟨none, (fun e he => nomatch he), rfl⟩
  | some e =>
      simp only [Option.map_some]
      split
      · exact ⟨none, (fun e he => nomatch he), rfl⟩
      · refine ⟨some e, fun f hf => ?_, rfl⟩
        obtain rfl : e = f := Option.some.inj hf
        exact (Candidate.mem_nearest.1 (List.mem_of_head? hhead)).1

/-- An element that denotes a truth value has one as a condition, stated or denied. -/
theorem hasTruth_of_isTruth {elements : List Element} (he : e ∈ elements) (h : e.IsTruth)
    (negate : Bool) :
    HasTruth elements (if negate then negated e.expression else e.expression) := by
  cases negate with
  | false => exact .element he h
  | true => exact .denied (.element he h)

/-- Whatever is reached from a subject denotes a truth value, or it is the length of an array, which
is reached exactly from the arrays that are neither fields nor derived. A predicate without a
literal becomes nothing, or the expression of what is reached, or its negation, and that has a truth
value if it does not speak of the length of an array. -/
theorem truths_reached (ctx : Context) (member : Member) (subject : Element) :
    ∃ found, (ctx.secondaryPool member subject).result = .ok found ∧
      (∀ e ∈ found, e.IsTruth ∨ subject.IsArray ∧ e = lengthElement subject.expression) ∧
      ((∀ e ∈ found, e.IsTruth) ↔
        (subject.IsArray → subject.kind = .field ∨ subject.kind = .derived)) ∧
      ∀ predicate negate, Suffix.ofPredicate? predicate = none →
        ∃ chosen : Option Element,
          (ctx.matchPredicate member subject predicate negate).result =
            .ok (chosen.map fun e => if negate then negated e.expression else e.expression) ∧
          ∀ e ∈ chosen, e ∈ found ∧
            (HasTruth found (if negate then negated e.expression else e.expression) ∨
              subject.IsArray ∧ e = lengthElement subject.expression) := by
  have hcases : ∀ e ∈ ctx.reachable member subject,
      e.IsTruth ∨ subject.IsArray ∧ e = lengthElement subject.expression :=
    fun e he => mem_questions_cases (mem_questions_of_mem_reachable he)
  refine ⟨_, ctx.result_secondaryPool member subject, hcases, forall_isTruth_reachable_iff, ?_⟩
  intro predicate negate hother
  obtain ⟨chosen, hchosen, hcondition⟩ := exists_chosen ctx member subject hother negate
  refine ⟨chosen, ?_, fun e he => ⟨hchosen e he, ?_⟩⟩
  · rw [result_matchPredicate, hcondition]
  · exact (hcases e (hchosen e he)).imp_left fun h => hasTruth_of_isTruth (hchosen e he) h negate

/-! ## A length that is taken for a condition -/

/-- A negation ends in the letter that the word false ends in. -/
theorem negated_ne_append {ending : Text} (hne : ending ≠ [])
    (hending : ending.getLast? ≠ some (.char 'e')) (condition receiver : Text) :
    negated condition ≠ receiver ++ ending := by
  intro h
  have hlast := congrArg List.getLast? h
  rw [negated, List.getLast?_append_of_ne_nil _ (by decide),
    List.getLast?_append_of_ne_nil receiver hne] at hlast
  exact hending hlast.symm

/-- By what can be asked of an array, its length has no truth value. -/
theorem not_hasTruth_length (receiver : Text) :
    ¬ HasTruth (arrayMembers receiver) (receiver ++ ".length") := by
  intro h
  generalize hcondition : receiver ++ ".length" = condition at h
  cases h with
  | element he htruth =>
      rcases List.mem_cons.1 he with rfl | he
      · exact absurd (List.append_cancel_left hcondition) (by decide)
      · obtain rfl := List.mem_singleton.1 he
        exact not_isTruth_lengthElement receiver htruth
  | denied => exact negated_ne_append (by decide) (by decide) _ receiver hcondition.symm

/-- So its negation has none. -/
theorem not_hasTruth_negated_length (receiver : Text) :
    ¬ HasTruth (arrayMembers receiver) (negated (receiver ++ ".length")) := by
  intro h
  generalize hcondition : negated (receiver ++ ".length") = condition at h
  cases h with
  | element he htruth =>
      rcases List.mem_cons.1 he with rfl | he
      · exact negated_ne_append (by decide) (by decide) _ _ hcondition
      · obtain rfl := List.mem_singleton.1 he
        exact negated_ne_append (by decide) (by decide) _ _ hcondition
  | denied h =>
      rw [← negated_inj hcondition] at h
      exact not_hasTruth_length receiver h

/-- The documented method. -/
def writeMethod : Method where
  name := "write"
  parameters := [⟨"data", "byte[]"⟩, ⟨"offset", "int"⟩]
  declaringType := "Sink"

/-- A static test of an offset. -/
def acceptsMethod : Method where
  name := "accepts"
  parameters := [⟨"at", "int"⟩]
  returnType := "boolean"
  isStatic := true
  declaringType := "Sink"

/-- The type that declares the methods. -/
def sinkType : TypeDecl where
  name := "Sink"
  methods := [writeMethod, acceptsMethod]

/-- The method as it is documented. -/
def sinkMember : Member where
  name := "write"
  containingType := "Sink"
  parameters := [⟨"data", "byte[]"⟩, ⟨"offset", "int"⟩]

/-- Standard settings, and sentences cut at their verbs. -/
def sinkContext : Context where
  program := .ofTypes [sinkType]
  source := .pattern
  settings := .standard

/-- The array among the parameters. -/
def dataElement : Element :=
  Candidate.parameterElement "data" 0 "byte[]" [] true

/-- The number among the parameters. -/
def offsetElement : Element :=
  Candidate.parameterElement "offset" 1 "int" [] true

/-- The pool of the documented method. -/
def sinkPool : Pool :=
  .ofOffers [Candidate.typeElement sinkType "target", dataElement, offsetElement,
    Candidate.staticMethodElement acceptsMethod ["offset"]]

theorem methods_sinkType :
    sinkContext.program.methods sinkType true = [writeMethod, acceptsMethod] := by
  rw [Program.methods_of_no_supertypes _ rfl]
  decide

theorem resolves_sinkMember :
    sinkContext.program.Resolves sinkMember sinkType (.method writeMethod) :=
  .of_no_supertypes (by decide) rfl rfl (by decide)

theorem collect_sinkMember : (sinkContext.collect sinkMember).result = .ok sinkPool := by
  have hmined : sinkMember.parameters.mapM (sinkContext.minedFor sinkMember) =
      .ok [⟨"data", "byte[]", []⟩, ⟨"offset", "int", []⟩] :=
    Run.mapM_eq_ok_iff.2
      (.cons (minedFor_eq_ok_iff.2 ⟨rfl, rfl, rfl⟩)
        (.cons (minedFor_eq_ok_iff.2 ⟨rfl, rfl, rfl⟩) .nil))
  have hoffers : sinkContext.offers sinkMember sinkType (.method writeMethod)
      [⟨"data", "byte[]", []⟩, ⟨"offset", "int", []⟩] =
        [Candidate.typeElement sinkType "target", dataElement, offsetElement,
          Candidate.staticMethodElement acceptsMethod ["offset"]] := by
    rw [offers, callElements, methods_sinkType, Program.fields_of_no_supertypes _ rfl]
    decide
  rw [result_collect _ _ resolves_sinkMember, hmined, Run.ok_map, hoffers, sinkPool]

/-- The array is tested by what can be asked of arrays alone. -/
theorem reachable_dataElement :
    sinkContext.reachable sinkMember dataElement = arrayMembers "data" := by
  have hfind : sinkContext.program.find? "Sink" = some sinkType := by decide
  show distinctBy Element.identity (sinkContext.membersOf "data" (some "byte[]") ++
    sinkContext.staticTests "Sink" dataElement) = _
  unfold staticTests
  rw [hfind]
  simp only [methods_sinkType]
  decide

/-- The number is tested by the static method. -/
theorem reachable_offsetElement :
    sinkContext.reachable sinkMember offsetElement =
      [Candidate.staticMethodElement acceptsMethod ["offset"]] := by
  have hfind : sinkContext.program.find? "Sink" = some sinkType := by decide
  show distinctBy Element.identity (sinkContext.membersOf "offset" (some "int") ++
    sinkContext.staticTests "Sink" offsetElement) = _
  unfold staticTests
  rw [hfind]
  simp only [methods_sinkType]
  decide

/-- From the number, truth values alone are reached, and the test of it can be denied. -/
theorem truths_reached_sinkMember :
    Suffix.ofPredicate? "accepted" = none ∧
      (sinkContext.collect sinkMember).result = .ok sinkPool ∧ offsetElement ∈ sinkPool.elements ∧
      ∃ found, (sinkContext.secondaryPool sinkMember offsetElement).result = .ok found ∧
        (∀ e ∈ found, e.IsTruth) ∧
        (sinkContext.matchPredicate sinkMember offsetElement "accepted" true).result =
          .ok (some "(Sink.accepts(offset)) == false") ∧
        HasTruth found "(Sink.accepts(offset)) == false" := by
  have hother : Suffix.ofPredicate? "accepted" = none := by decide
  have hnumber : ¬ offsetElement.IsArray := by
    rintro ⟨type, hvalue, harray⟩
    obtain rfl : "int" = type := Option.some.inj hvalue
    exact absurd harray (by decide)
  have hcondition : sinkContext.condition? sinkMember offsetElement "accepted" true =
      some ("(Sink.accepts(offset)) == false" : Text) := by
    unfold condition? statement?
    rw [hother, reachable_offsetElement]
    decide
  obtain ⟨found, hfound, -, htruths, hmatch⟩ :=
    truths_reached sinkContext sinkMember offsetElement
  obtain ⟨chosen, hresult, hchosen⟩ := hmatch "accepted" true hother
  rw [result_matchPredicate, hcondition] at hresult
  refine ⟨hother, collect_sinkMember, by decide, found, hfound,
    htruths.2 fun harray => absurd harray hnumber, ?_, ?_⟩
  · rw [result_matchPredicate, hcondition]
  · -- what was chosen is what the condition speaks of
    obtain ⟨e, rfl, he⟩ := Option.map_eq_some_iff.1 (Except.ok.inj hresult).symm
    rw [← he]
    exact (hchosen e rfl).2.resolve_right fun h => hnumber h.1

/-- From an array its length is reached, which denotes no truth value. Nor has the negation one that
a predicate of that name becomes. -/
theorem length_reached_sinkMember :
    (sinkContext.collect sinkMember).result = .ok sinkPool ∧ dataElement ∈ sinkPool.elements ∧
      (sinkContext.secondaryPool sinkMember dataElement).result =
        .ok (arrayMembers "data") ∧
      ¬ (∀ e ∈ arrayMembers "data", e.IsTruth) ∧
      Suffix.ofPredicate? "length" = none ∧
      (sinkContext.matchPredicate sinkMember dataElement "length" true).result =
        .ok (some "(data.length) == false") ∧
      ¬ HasTruth (arrayMembers "data") "(data.length) == false" := by
  have hother : Suffix.ofPredicate? "length" = none := by decide
  have hcondition : sinkContext.condition? sinkMember dataElement "length" true =
      some ("(data.length) == false" : Text) := by
    unfold condition? statement?
    rw [hother, reachable_dataElement]
    decide
  refine ⟨collect_sinkMember, by decide, ?_, fun htruths => ?_, hother, ?_,
    not_hasTruth_negated_length "data"⟩
  · rw [result_secondaryPool, reachable_dataElement]
  · exact not_isTruth_lengthElement "data" (htruths _ (by decide))
  · rw [result_matchPredicate, hcondition]

end Context

end ProseGuard
