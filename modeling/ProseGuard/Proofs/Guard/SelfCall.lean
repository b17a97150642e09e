import ProseGuard.Proofs.Candidate.Origin
import ProseGuard.Proofs.Guard.Failure
import ProseGuard.Proofs.Guard.ReadBack

/-!
# Members in their own guards

A precondition that calls the method it guards would not end. No candidate of a member calls it
(`not_callsSelf_of_mem`), but what can be asked of a candidate is looked up apart from the
candidates. Main statement: `callsSelf_iff`, which says when such a question calls the documented
method itself; `callsSelf_stackMember` shows a guard that does.
-/

namespace ProseGuard.Context

open Program (TypeDecl Method Executable)
open Comment (Member Proposition)
open Candidate (Element Pool)

/-- The element calls a method of the executable's own signature, on the object itself or on the
type that declares it. -/
inductive CallsSelf (ctx : Context) (executable : Executable) : Element → Prop where
  | onReceiver (m : Method) (args : List Text) : Executable.sameSignature (.method m) executable →
      CallsSelf ctx executable (Candidate.methodElement m ctx.receiver args)
  | onType (m : Method) (args : List Text) : Executable.sameSignature (.method m) executable →
      CallsSelf ctx executable (Candidate.staticMethodElement m args)

/-- A boolean method without parameters of the type that the name stands for. Of an array no method
is asked. -/
def IsQuestion (ctx : Context) (typeName : Option Text) (m : Method) : Prop :=
  ∃ name type, typeName = some name ∧ name ≠ "" ∧ Program.isArrayName name = false ∧
    ctx.program.find? name = some type ∧ m ∈ ctx.program.methods type true ∧
    m.parameters = [] ∧ Program.isBooleanName m.returnType

variable {ctx : Context} {member : Member} {executable : Executable} {type : TypeDecl}
  {m : Method} {args : List Text} {e subject : Element} {value : Text}

/-! ## Calls of one identity -/

/-- Methods of one signature have that of an executable alike. -/
theorem sameSignature_of_signature_eq {n : Method} (h : m.signature = n.signature)
    (hn : Executable.sameSignature (.method n) executable) :
    Executable.sameSignature (.method m) executable := by
  cases executable with
  | method a =>
      have hsame : n.signature = a.signature := of_decide_eq_true hn
      exact decide_eq_true (h.trans hsame)
  | constructor c => exact nomatch hn

/-- A call that has the identity of a call of the member itself is one: the value that it is made on
is the object itself, and its method has the documented signature. -/
theorem CallsSelf.of_methodElement (he : ctx.CallsSelf executable e)
    (h : e.identity = (Candidate.methodElement m value args).identity) :
    value = ctx.receiver ∧ Executable.sameSignature (.method m) executable := by
  cases he with
  | onReceiver n args' hsame =>
      obtain ⟨hsignature, hrest⟩ := Candidate.Key.cons.inj (congrArg Prod.snd h)
      have hvalue := Candidate.Key.text.inj (Candidate.Key.cons.inj hrest).1
      have hsignature := Candidate.Key.text.inj hsignature
      exact ⟨hvalue.symm, sameSignature_of_signature_eq hsignature.symm hsame⟩
  | onType n args' hsame => exact nomatch congrArg Prod.fst h

/-- So is a static call of such an identity. -/
theorem CallsSelf.of_staticMethodElement (he : ctx.CallsSelf executable e)
    (h : e.identity = (Candidate.staticMethodElement m args).identity) :
    Executable.sameSignature (.method m) executable := by
  cases he with
  | onReceiver n args' hsame => exact nomatch congrArg Prod.fst h
  | onType n args' hsame =>
      obtain ⟨hsignature, -⟩ := Candidate.Key.cons.inj (congrArg Prod.snd h)
      exact sameSignature_of_signature_eq (Candidate.Key.text.inj hsignature).symm hsame

/-- A call of the member itself is a call. -/
theorem CallsSelf.kind (h : ctx.CallsSelf executable e) :
    e.kind = .method ∨ e.kind = .staticMethod := by
  cases h with
  | onReceiver => exact .inl rfl
  | onType => exact .inr rfl

/-! ## Candidates -/

/-- No candidate of a member calls the member itself. -/
theorem not_callsSelf_of_mem {pool : Pool} (hresolves : ctx.program.Resolves member type executable)
    (hpool : (ctx.collect member).result = .ok pool) (he : e ∈ pool.elements) :
    ¬ ctx.CallsSelf executable e := by
  intro hself
  obtain ⟨mined, -, rfl⟩ := ctx.exists_offers member hresolves hpool
  have hoffer := (Pool.of_mem_ofOffers he).1
  obtain ⟨n, -, hcallable, rfl⟩ :=
    mem_callElements_iff.1 (mem_callElements_of_kind hoffer hself.kind)
  unfold callElement at hself
  split at hself
  · exact hcallable.other (hself.of_staticMethodElement rfl)
  · exact hcallable.other (hself.of_methodElement rfl).2

/-- The one candidate that is a type is the object itself. -/
theorem IsCandidate.eq_typeElement (h : ctx.IsCandidate member type e) (hkind : e.kind = .type) :
    e = Candidate.typeElement type ctx.receiver := by
  cases h with
  | type => rfl
  | call n args' hn hargs =>
      rw [kind_callElement] at hkind
      split at hkind <;> exact nomatch hkind
  | _ => exact nomatch hkind

/-! ## Questions -/

/-- Among the boolean members of a type, the calls are those of methods without parameters. -/
theorem mem_booleanMembers_iff (hkind : e.kind = .method ∨ e.kind = .staticMethod) :
    e ∈ booleanMembers ctx.program type value ↔
      ∃ m ∈ ctx.program.methods type true, m.parameters = [] ∧
        Program.isBooleanName m.returnType ∧ e = Candidate.methodElement m value [] := by
  have hfield : ∀ f : Program.Field, Candidate.fieldElement f value ≠ e := by
    rintro f rfl
    rcases hkind with hkind | hkind <;> exact nomatch hkind
  rw [booleanMembers, List.mem_append, List.mem_map, List.mem_map]
  constructor
  · rintro (⟨f, -, hf⟩ | ⟨m, hm, rfl⟩)
    · exact absurd hf (hfield f)
    · obtain ⟨hm, htest⟩ := List.mem_filter.1 hm
      obtain ⟨hnone, hboolean⟩ := Bool.and_eq_true_iff.1 htest
      exact ⟨m, hm, List.isEmpty_iff.1 hnone, hboolean, rfl⟩
  · rintro ⟨m, hm, hnone, hboolean, rfl⟩
    have htest : (m.parameters.isEmpty && Program.isBooleanName m.returnType) = true := by
      rw [hnone, hboolean]
      rfl
    exact .inr ⟨m, List.mem_filter.2 ⟨hm, htest⟩, rfl⟩

/-- What is called to ask something of a value is a question about its type. -/
theorem mem_membersOf_iff {typeName : Option Text}
    (hkind : e.kind = .method ∨ e.kind = .staticMethod) :
    e ∈ ctx.membersOf value typeName ↔
      ∃ m, ctx.IsQuestion typeName m ∧ e = Candidate.methodElement m value [] := by
  have harray : e ∉ arrayMembers value := by
    rw [arrayMembers, List.mem_cons, List.mem_singleton]
    rintro (rfl | rfl)
    · rcases hkind with hkind | hkind <;> exact nomatch hkind
    · rcases hkind with hkind | hkind <;> exact nomatch hkind
  constructor
  · intro h
    rcases mem_membersOf_cases h with h | ⟨name, u, hvalue, hname, hplain, hfind, h⟩
    · exact absurd h harray
    · obtain ⟨m, hm, hnone, hboolean, rfl⟩ := (mem_booleanMembers_iff hkind).1 h
      exact ⟨m, ⟨name, u, hvalue, hname, hplain, hfind, hm, hnone, hboolean⟩, rfl⟩
  · rintro ⟨m, ⟨name, u, rfl, hname, hplain, hfind, hm, hnone, hboolean⟩, rfl⟩
    rw [membersOf_of_find? hname hplain hfind]
    exact (mem_booleanMembers_iff hkind).2 ⟨m, hm, hnone, hboolean, rfl⟩

/-- The static tests of a parameter are calls of the tests of its type. -/
theorem mem_staticTests_iff (htype : ctx.program.find? member.containingType = some type) :
    e ∈ ctx.staticTests member.containingType subject ↔
      ∃ m ∈ ctx.program.methods type true, testsValue subject.valueType m ∧
        e = Candidate.staticMethodElement m
          (if m.parameters.isEmpty then [] else [subject.expression]) := by
  simp only [staticTests, htype, List.mem_map, List.mem_filter]
  constructor
  · rintro ⟨m, ⟨hm, htest⟩, rfl⟩
    exact ⟨m, hm, htest, rfl⟩
  · rintro ⟨m, hm, htest, rfl⟩
    exact ⟨m, ⟨hm, htest⟩, rfl⟩

/-- The question that calls a member itself: about the object, or a test of a parameter. -/
def AsksItself (ctx : Context) (type : TypeDecl) (executable : Executable) (subject : Element)
    (m : Method) : Prop :=
  Executable.sameSignature (.method m) executable ∧
    ((subject.expression = ctx.receiver ∧ ctx.IsQuestion subject.valueType m) ∨
      (subject.kind = .parameter ∧ m ∈ ctx.program.methods type true ∧
        testsValue subject.valueType m))

/-- What is reached from a subject, repetitions included. -/
def questions (ctx : Context) (member : Member) (subject : Element) : List Element :=
  ctx.membersOf subject.expression subject.valueType ++
    if subject.kind = .parameter then ctx.staticTests member.containingType subject else []

theorem reachable_eq (hkind : subject.kind = .type ∨ subject.kind = .parameter) :
    ctx.reachable member subject = distinctBy Element.identity (ctx.questions member subject) := by
  unfold reachable questions
  rcases hkind with hkind | hkind
  · simp only [hkind, reduceCtorEq, if_false, List.append_nil]
  · simp only [hkind, if_true]

/-- A call among the questions calls the member itself exactly if it asks about it. -/
theorem callsSelf_of_mem_questions
    (htype : ctx.program.find? member.containingType = some type)
    (he : e ∈ ctx.questions member subject) {f : Element} (hf : ctx.CallsSelf executable f)
    (hidentity : f.identity = e.identity) :
    ctx.CallsSelf executable e ∧ ∃ m, ctx.AsksItself type executable subject m := by
  have hkind : e.kind = .method ∨ e.kind = .staticMethod := by
    rw [← show f.kind = e.kind from congrArg Prod.fst hidentity]
    exact hf.kind
  rcases List.mem_append.1 he with he | he
  · obtain ⟨m, hquestion, rfl⟩ := (mem_membersOf_iff hkind).1 he
    obtain ⟨hvalue, hsame⟩ := hf.of_methodElement hidentity
    exact ⟨hvalue ▸ .onReceiver m [] hsame, m, hsame, .inl ⟨hvalue, hquestion⟩⟩
  · split at he
    · next hparameter =>
      obtain ⟨m, hm, htest, rfl⟩ := (mem_staticTests_iff htype).1 he
      have hsame := hf.of_staticMethodElement hidentity
      exact ⟨.onType m _ hsame, m, hsame, .inr ⟨hparameter, hm, htest⟩⟩
    · exact absurd he List.not_mem_nil

/-- A question that calls the member itself can be reached exactly if there is one. -/
theorem exists_callsSelf_iff (htype : ctx.program.find? member.containingType = some type)
    (hkind : subject.kind = .type ∨ subject.kind = .parameter) :
    (∃ e ∈ ctx.reachable member subject, ctx.CallsSelf executable e) ↔
      ∃ m, ctx.AsksItself type executable subject m := by
  rw [reachable_eq hkind]
  constructor
  · rintro ⟨e, he, hself⟩
    exact (callsSelf_of_mem_questions htype (mem_of_mem_distinctBy he) hself rfl).2
  · rintro ⟨m, hsame, hasks⟩
    obtain ⟨e, he, hself⟩ : ∃ e ∈ ctx.questions member subject, ctx.CallsSelf executable e := by
      rcases hasks with ⟨hvalue, hquestion⟩ | ⟨hparameter, hm, htest⟩
      · have hmembers : Candidate.methodElement m subject.expression [] ∈
            ctx.membersOf subject.expression subject.valueType :=
          (mem_membersOf_iff (.inl rfl)).2 ⟨m, hquestion, rfl⟩
        exact ⟨_, List.mem_append_left _ hmembers, hvalue ▸ .onReceiver m [] hsame⟩
      · have htests := (mem_staticTests_iff htype).2 ⟨m, hm, htest, rfl⟩
        refine ⟨Candidate.staticMethodElement m
          (if m.parameters.isEmpty then [] else [subject.expression]),
          List.mem_append_right _ ?_, .onType m _ hsame⟩
        rwa [if_pos hparameter]
    -- an element of its identity is kept in its place
    obtain ⟨f, hf, hidentity⟩ :=
      List.mem_map.1 (mem_map_distinctBy.2 (List.mem_map_of_mem (f := Element.identity) he))
    exact ⟨f, hf,
      (callsSelf_of_mem_questions htype (mem_of_mem_distinctBy hf) hself hidentity.symm).1⟩

/-- The type itself is asked about the member if it is no array and the member is a question. -/
theorem exists_asksItself_type_iff {pool : Pool}
    (hresolves : ctx.program.Resolves member type executable)
    (hpool : (ctx.collect member).result = .ok pool) (hsubject : subject ∈ pool.elements)
    (hkind : subject.kind = .type) :
    (∃ m, ctx.AsksItself type executable subject m) ↔
      Program.isArrayName member.containingType = false ∧
        ∃ m ∈ ctx.program.methods type true, Executable.sameSignature (.method m) executable ∧
          m.parameters = [] ∧ Program.isBooleanName m.returnType := by
  have htype := hresolves.type_found
  have hname : type.name = member.containingType := Program.name_of_find? htype
  obtain ⟨mined, hmined, rfl⟩ := ctx.exists_offers member hresolves hpool
  obtain ⟨hoffer, hnamed⟩ := Pool.of_mem_ofOffers hsubject
  obtain rfl := (isCandidate_of_mem_offers hmined hoffer).eq_typeElement hkind
  -- the type stands in the pool only if it has a name
  have hne : member.containingType ≠ "" := by
    intro hempty
    have hword : (Program.typeWords member.containingType).any fun word => word ≠ "" :=
      hname ▸ hnamed
    rw [hempty] at hword
    exact absurd hword (by decide)
  constructor
  · rintro ⟨m, hsame, hquestion | htest⟩
    · obtain ⟨-, name, u, hvalue, -, hplain, hfind, hm, hnone, hboolean⟩ := hquestion
      obtain rfl : type.name = name := Option.some.inj hvalue
      rw [hname] at hfind hplain
      obtain rfl : type = u := Option.some.inj (htype.symm.trans hfind)
      exact ⟨hplain, m, hm, hsame, hnone, hboolean⟩
    · exact nomatch htest.1
  · rintro ⟨hplain, m, hm, hsame, hnone, hboolean⟩
    exact ⟨m, hsame, .inl ⟨rfl, member.containingType, type, congrArg some hname, hne, hplain,
      htype, hm, hnone, hboolean⟩⟩

/-- No candidate of a member whose executable is known calls the member itself. What can be asked of
its type does exactly if the type is no array and has a boolean method without parameters that is,
by its signature, the documented one; and what can be asked of a parameter does exactly if the
documented method is a static test of its type, or if the parameter goes by the name of the object
itself and the documented method is a question about its type. -/
theorem callsSelf_iff {pool : Pool} (hresolves : ctx.program.Resolves member type executable)
    (hpool : (ctx.collect member).result = .ok pool) :
    (∀ e ∈ pool.elements, ¬ ctx.CallsSelf executable e) ∧
    ∀ subject ∈ pool.elements, ∃ found, (ctx.secondaryPool member subject).result = .ok found ∧
      (subject.kind = .type →
        ((∃ e ∈ found, ctx.CallsSelf executable e) ↔
          Program.isArrayName member.containingType = false ∧
            ∃ m ∈ ctx.program.methods type true, Executable.sameSignature (.method m) executable ∧
              m.parameters = [] ∧ Program.isBooleanName m.returnType)) ∧
      (subject.kind = .parameter →
        ((∃ e ∈ found, ctx.CallsSelf executable e) ↔
          (∃ m ∈ ctx.program.methods type true, Executable.sameSignature (.method m) executable ∧
            testsValue subject.valueType m) ∨
          (subject.expression = ctx.receiver ∧
            ∃ m, ctx.IsQuestion subject.valueType m ∧
              Executable.sameSignature (.method m) executable))) := by
  have htype := hresolves.type_found
  refine ⟨fun e he => not_callsSelf_of_mem hresolves hpool he, fun subject hsubject => ?_⟩
  refine ⟨_, ctx.result_secondaryPool member subject, fun hkind => ?_, fun hkind => ?_⟩
  · rw [exists_callsSelf_iff htype (.inl hkind),
      exists_asksItself_type_iff hresolves hpool hsubject hkind]
  · rw [exists_callsSelf_iff htype (.inr hkind)]
    constructor
    · rintro ⟨m, hsame, ⟨hvalue, hquestion⟩ | ⟨-, hm, htest⟩⟩
      · exact .inr ⟨hvalue, m, hquestion, hsame⟩
      · exact .inl ⟨m, hm, hsame, htest⟩
    · rintro (⟨m, hm, hsame, htest⟩ | ⟨hvalue, m, hquestion, hsame⟩)
      · exact ⟨m, hsame, .inr ⟨hkind, hm, htest⟩⟩
      · exact ⟨m, hsame, .inl ⟨hvalue, hquestion⟩⟩

/-! ## A test that is asked about itself -/

/-- A question about a lock. -/
def isOpenMethod : Method where
  name := "isOpen"
  returnType := "boolean"
  declaringType := "Lock"

/-- A test of a key, which is documented below. -/
def fitsMethod : Method where
  name := "fits"
  parameters := [⟨"key", "Key"⟩]
  returnType := "boolean"
  isStatic := true
  declaringType := "Lock"

/-- The type that declares both. -/
def lockType : TypeDecl where
  name := "Lock"
  methods := [isOpenMethod, fitsMethod]

/-- A question about a key. -/
def isWornMethod : Method where
  name := "isWorn"
  returnType := "boolean"
  declaringType := "Key"

/-- The type of the parameter. -/
def keyType : TypeDecl where
  name := "Key"
  methods := [isWornMethod]

/-- The documented method, with a comment on its parameter. -/
def lockMember : Member where
  name := "fits"
  containingType := "Lock"
  parameters := [⟨"key", "Key"⟩]
  paramTags := [⟨"key", "must not be worn"⟩]

/-- Standard settings, and sentences cut at their verbs. -/
def lockContext : Context where
  program := .ofTypes [lockType, keyType]
  source := .pattern
  settings := .standard

/-- The parameter as a candidate. -/
def keyElement : Element :=
  Candidate.parameterElement "key" 0 "Key" ["worn"] true

/-- The pool of the method, which leaves the method itself out. -/
def lockPool : Pool :=
  .ofOffers [Candidate.typeElement lockType "target", keyElement,
    Candidate.methodElement isOpenMethod "target" []]

theorem methods_lockType :
    lockContext.program.methods lockType true = [isOpenMethod, fitsMethod] := by
  rw [Program.methods_of_no_supertypes _ rfl]
  decide

theorem resolves_lockMember :
    lockContext.program.Resolves lockMember lockType (.method fitsMethod) :=
  .of_no_supertypes (by decide) rfl rfl (by decide)

theorem collect_lockMember : (lockContext.collect lockMember).result = .ok lockPool := by
  have hmined : lockMember.parameters.mapM (lockContext.minedFor lockMember) =
      .ok [⟨"key", "Key", ["worn"]⟩] := by
    rw [Run.mapM_eq_ok_iff]
    refine .cons (minedFor_eq_ok_iff.2 ⟨rfl, rfl, ?_⟩) .nil
    exact congrArg Except.ok (by decide)
  have hoffers : lockContext.offers lockMember lockType (.method fitsMethod)
      [⟨"key", "Key", ["worn"]⟩] = [Candidate.typeElement lockType "target", keyElement,
        Candidate.methodElement isOpenMethod "target" []] := by
    rw [offers, callElements, methods_lockType, Program.fields_of_no_supertypes _ rfl]
    decide
  rw [result_collect _ _ resolves_lockMember, hmined, Run.ok_map, hoffers, lockPool]

/-- What is asked of a lock is whether it is open. -/
theorem reachable_lockType :
    lockContext.reachable lockMember (Candidate.typeElement lockType "target") =
      [Candidate.methodElement isOpenMethod "target" []] := by
  have hfind : lockContext.program.find? "Lock" = some lockType := by decide
  have hmembers : lockContext.membersOf "target" (some "Lock") =
      [Candidate.methodElement isOpenMethod "target" []] := by
    rw [membersOf_of_find? (by decide) (by decide) hfind, booleanMembers,
      methods_lockType, Program.fields_of_no_supertypes _ rfl]
    decide
  show distinctBy Element.identity (lockContext.membersOf "target" (some "Lock")) = _
  rw [hmembers]
  rfl

/-- What is asked of a key is whether it is worn and whether it fits the lock. -/
theorem reachable_keyElement : lockContext.reachable lockMember keyElement =
    [Candidate.methodElement isWornMethod "key" [],
      Candidate.staticMethodElement fitsMethod ["key"]] := by
  have hlock : lockContext.program.find? "Lock" = some lockType := by decide
  have hkey : lockContext.program.find? "Key" = some keyType := by decide
  have hmembers : lockContext.membersOf "key" (some "Key") =
      [Candidate.methodElement isWornMethod "key" []] := by
    rw [membersOf_of_find? (by decide) (by decide) hkey, booleanMembers,
      Program.methods_of_no_supertypes _ rfl, Program.fields_of_no_supertypes _ rfl]
    decide
  have htests : lockContext.staticTests "Lock" keyElement =
      [Candidate.staticMethodElement fitsMethod ["key"]] := by
    simp only [staticTests, hlock, methods_lockType]
    decide
  show distinctBy Element.identity (lockContext.membersOf "key" (some "Key") ++
    lockContext.staticTests "Lock" keyElement) = _
  rw [hmembers, htests]
  decide

/-- What is asked of a lock does not call the documented test, and what is asked of a key does. -/
theorem callsSelf_iff_lockMember :
    lockContext.program.Resolves lockMember lockType (.method fitsMethod) ∧
      (lockContext.collect lockMember).result = .ok lockPool ∧
      (lockContext.secondaryPool lockMember (Candidate.typeElement lockType "target")).result =
        .ok [Candidate.methodElement isOpenMethod "target" []] ∧
      ¬ lockContext.CallsSelf (.method fitsMethod)
        (Candidate.methodElement isOpenMethod "target" []) ∧
      (lockContext.secondaryPool lockMember keyElement).result =
        .ok [Candidate.methodElement isWornMethod "key" [],
          Candidate.staticMethodElement fitsMethod ["key"]] ∧
      ∃ e ∈ [Candidate.methodElement isWornMethod "key" [],
          Candidate.staticMethodElement fitsMethod ["key"]],
        lockContext.CallsSelf (.method fitsMethod) e := by
  have hlock := lockContext.result_secondaryPool lockMember (Candidate.typeElement lockType "target")
  have hkey := lockContext.result_secondaryPool lockMember keyElement
  rw [reachable_lockType] at hlock
  rw [reachable_keyElement] at hkey
  obtain ⟨-, hasked⟩ := callsSelf_iff resolves_lockMember collect_lockMember
  refine ⟨resolves_lockMember, collect_lockMember, hlock, fun hself => ?_, hkey, ?_⟩
  · obtain ⟨found, hfound, hiff, -⟩ := hasked (Candidate.typeElement lockType "target")
      (by decide)
    obtain rfl := Except.ok.inj (hlock.symm.trans hfound)
    obtain ⟨-, m, hm, hsame, hnone, -⟩ := (hiff rfl).1 ⟨_, List.mem_cons_self, hself⟩
    rw [methods_lockType] at hm
    -- the question has another signature, and the test has a parameter
    have hother : ∀ m ∈ [isOpenMethod, fitsMethod],
        Executable.sameSignature (.method m) (.method fitsMethod) → m.parameters ≠ [] := by
      decide
    exact hother m hm hsame hnone
  · obtain ⟨found, hfound, -, hiff⟩ := hasked keyElement (by decide)
    obtain rfl := Except.ok.inj (hkey.symm.trans hfound)
    refine (hiff rfl).2 (.inl ⟨fitsMethod, ?_, by decide, by decide⟩)
    rw [methods_lockType]
    exact List.mem_cons_of_mem _ List.mem_cons_self

/-! ## A guard that calls its own method -/

/-- A question about a stack, which is documented below. -/
def isEmptyMethod : Method where
  name := "isEmpty"
  returnType := "boolean"
  declaringType := "Stack"

/-- The type that declares it. -/
def stackType : TypeDecl where
  name := "Stack"
  methods := [isEmptyMethod]

/-- The documented method, with a comment on an exception. -/
def stackMember : Member where
  name := "isEmpty"
  containingType := "Stack"
  throwsTags := [⟨"IllegalStateException", "if stack is empty"⟩]

/-- Standard settings, and sentences cut at their verbs. -/
def stackContext : Context where
  program := .ofTypes [stackType]
  source := .pattern
  settings := .standard

/-- The pool of the method, which leaves the method itself out. -/
def stackPool : Pool :=
  .ofOffers [Candidate.typeElement stackType "target"]

theorem resolves_stackMember :
    stackContext.program.Resolves stackMember stackType (.method isEmptyMethod) :=
  .of_no_supertypes (by decide) rfl rfl (by decide)

theorem collect_stackMember : (stackContext.collect stackMember).result = .ok stackPool := by
  have hoffers : stackContext.offers stackMember stackType (.method isEmptyMethod) [] =
      [Candidate.typeElement stackType "target"] := by
    rw [offers, callElements, Program.methods_of_no_supertypes _ rfl,
      Program.fields_of_no_supertypes _ rfl]
    decide
  have hmined : stackMember.parameters.mapM (stackContext.minedFor stackMember) = .ok [] := rfl
  rw [result_collect _ _ resolves_stackMember, hmined, Run.ok_map, hoffers, stackPool]

/-- What is asked of the stack is whether it is empty. -/
theorem reachable_stackMember :
    stackContext.reachable stackMember (Candidate.typeElement stackType "target") =
      [Candidate.methodElement isEmptyMethod "target" []] := by
  have hfind : stackContext.program.find? "Stack" = some stackType := by decide
  have hmembers : stackContext.membersOf "target" (some "Stack") =
      [Candidate.methodElement isEmptyMethod "target" []] := by
    rw [membersOf_of_find? (by decide) (by decide) hfind, booleanMembers,
      Program.methods_of_no_supertypes _ rfl, Program.fields_of_no_supertypes _ rfl]
    decide
  show distinctBy Element.identity (stackContext.membersOf "target" (some "Stack")) = _
  rw [hmembers]
  rfl

/-- The guard of the method that tells whether a stack is empty calls that method. -/
theorem callsSelf_stackMember :
    stackContext.program.Resolves stackMember stackType (.method isEmptyMethod) ∧
      (stackContext.collect stackMember).result = .ok stackPool ∧
      Candidate.typeElement stackType "target" ∈ stackPool.elements ∧
      (stackContext.secondaryPool stackMember (Candidate.typeElement stackType "target")).result =
        .ok [Candidate.methodElement isEmptyMethod "target" []] ∧
      stackContext.CallsSelf (.method isEmptyMethod)
        (Candidate.methodElement isEmptyMethod "target" []) ∧
      (stackContext.memberGuards stackMember).result =
        .ok ⟨"Stack.isEmpty()", [], [⟨.throws, "IllegalStateException", "if stack is empty",
          some "target.isEmpty()"⟩]⟩ := by
  have hsecondary := stackContext.result_secondaryPool stackMember
    (Candidate.typeElement stackType "target")
  rw [reachable_stackMember] at hsecondary
  have hread : (stackContext.source.read (withoutLead "if stack is empty")).result =
      .ok [⟨"stack", "empty", false, "empty"⟩] :=
    congrArg Except.ok (by decide)
  have hnamed : stackContext.named stackPool "stack" =
      [Candidate.typeElement stackType "target"] := by decide
  have hstated : stackContext.condition? stackMember (Candidate.typeElement stackType "target")
      "empty" false = some "target.isEmpty()" := by
    have hplain : Guard.Suffix.ofPredicate? "empty" = none := by decide
    rw [condition?, statement?, hplain, reachable_stackMember]
    decide
  have hproposition : (stackContext.propositionCondition stackMember
      ⟨"stack", "empty", false, "empty"⟩).result = .ok (some "target.isEmpty()") := by
    rw [result_propositionCondition, collect_stackMember, Run.ok_map]
    exact congrArg Except.ok ((propositionCondition?_of_named
      ⟨"stack", "empty", false, "empty"⟩ hnamed).trans hstated)
  refine ⟨resolves_stackMember, collect_stackMember, by decide, hsecondary,
    .onReceiver isEmptyMethod [] (by decide), ?_⟩
  refine memberGuards_eq_ok_iff.2 ⟨by decide, .nil, .cons ?_ .nil⟩
  rw [result_throwsGuard, result_textCondition hread (.cons hproposition .nil)]
  rfl

end ProseGuard.Context
