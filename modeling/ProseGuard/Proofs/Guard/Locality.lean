import ProseGuard.Proofs.Candidate.Origin
import ProseGuard.Proofs.Guard.Outcome
import ProseGuard.Proofs.Program.Adding
import ProseGuard.Proofs.Program.Reach

/-!
# What guards need of a program

The search for the guards of a member looks up few types: the one that contains it, those of its
parameters, those that public methods of the containing type return, and the supertypes of all
these (`Needed`). Programs that agree on them give the same guards and report the same events. Main
statement: `memberGuards_of_agreeOn`.
-/

namespace ProseGuard

namespace Context

open Program (TypeDecl Method Executable)
open Comment (Member Proposition)
open Candidate (Element Pool)

/-- The names of types that the guards of a member can depend on. -/
inductive Needed (p : Program) (member : Member) : Text → Prop where
  | container : Needed p member member.containingType
  | parameter (name : Text) : name ∈ member.parameterTypes → Needed p member name
  | result (type : TypeDecl) (m : Method) : p.find? member.containingType = some type →
      m ∈ p.methods type true → Needed p member m.returnType
  | supertype (name super : Text) (t : TypeDecl) : Needed p member name →
      p.find? name = some t → super ∈ t.supertypes → Needed p member super

/-- The same source and settings with another program. -/
def withProgram (ctx : Context) (q : Program) : Context :=
  { ctx with program := q }

variable {ctx : Context} {member : Member} {q : Program}

@[simp] theorem program_withProgram : (ctx.withProgram q).program = q := rfl

/-- With a type, its supertypes are needed. -/
theorem isClosed_needed (p : Program) (member : Member) : p.IsClosed (Needed p member) :=
  fun name t hname hfind super hsuper => .supertype name super t hname hfind hsuper

/-- Unless it is a field, a candidate denotes a value of a needed type. -/
theorem IsCandidate.needed {type : TypeDecl}
    (hfind : ctx.program.find? member.containingType = some type) {e : Element}
    (h : ctx.IsCandidate member type e) (hfield : e.kind ≠ .field) :
    ∀ name ∈ e.valueType, Needed ctx.program member name := by
  intro name hname
  cases h with
  | type =>
      obtain rfl : type.name = name := Option.some.inj hname
      rw [Program.name_of_find? hfind]
      exact .container
  | parameter i p words hp =>
      obtain rfl : p.type = name := Option.some.inj hname
      exact .parameter _ (List.mem_map_of_mem (List.mem_of_getElem? hp))
  | call m args hm hargs =>
      have hresult : (ctx.callElement m args).valueType = some m.returnType := by
        unfold callElement
        split <;> rfl
      obtain rfl : m.returnType = name := Option.some.inj (hresult.symm.trans hname)
      exact .result type m hfind hm
  | field f hf => exact absurd rfl hfield

section Agree

variable (hagree : ctx.program.AgreeOn q (Needed ctx.program member))

include hagree

/-! ## Candidates -/

/-- A needed type has the same boolean members in either program. -/
theorem booleanMembers_of_agreeOn {name : Text} (hname : Needed ctx.program member name)
    {type : TypeDecl} (hfind : ctx.program.find? name = some type) (receiver : Text) :
    booleanMembers q type receiver = booleanMembers ctx.program type receiver := by
  unfold booleanMembers
  rw [Program.fields_eq_of_agreeOn (isClosed_needed _ _) hagree hname hfind,
    Program.methods_eq_of_agreeOn (isClosed_needed _ _) hagree hname hfind]

/-- The documented executable is found alike. -/
theorem findExecutable?_of_agreeOn {type : TypeDecl}
    (hfind : ctx.program.find? member.containingType = some type) :
    q.findExecutable? type member.name member.parameterTypes member.isConstructor =
      ctx.program.findExecutable? type member.name member.parameterTypes
        member.isConstructor := by
  unfold Program.findExecutable? Program.findMethod?
  rw [Program.methods_eq_of_agreeOn (isClosed_needed _ _) hagree .container hfind]

/-- So are the candidates of a member whose executable is found. -/
theorem collectFor_of_agreeOn {type : TypeDecl}
    (hfind : ctx.program.find? member.containingType = some type) (executable : Executable) :
    (ctx.withProgram q).collectFor member type executable =
      ctx.collectFor member type executable := by
  unfold collectFor
  rw [program_withProgram,
    Program.methods_eq_of_agreeOn (isClosed_needed _ _) hagree .container hfind,
    Program.fields_eq_of_agreeOn (isClosed_needed _ _) hagree .container hfind]
  rfl

/-- The same candidates are collected. -/
theorem collect_of_agreeOn : (ctx.withProgram q).collect member = ctx.collect member := by
  unfold collect
  rw [program_withProgram, ← hagree _ .container]
  cases hfind : ctx.program.find? member.containingType with
  | none => rfl
  | some type =>
      simp only [findExecutable?_of_agreeOn hagree hfind]
      cases ctx.program.findExecutable? type member.name member.parameterTypes
          member.isConstructor with
      | none => rfl
      | some executable => exact collectFor_of_agreeOn hagree hfind executable

/-- A subject names the same candidates. -/
theorem matchSubject_of_agreeOn (subject : Text) :
    (ctx.withProgram q).matchSubject subject member = ctx.matchSubject subject member := by
  unfold matchSubject
  rw [collect_of_agreeOn hagree]
  rfl

/-! ## What is said of a candidate -/

/-- The same can be asked of a value of a needed type. -/
theorem booleanElements_of_agreeOn (receiver : Text) {typeName : Option Text}
    (hneeded : ∀ name ∈ typeName, Needed ctx.program member name) :
    (ctx.withProgram q).booleanElements receiver typeName =
      ctx.booleanElements receiver typeName := by
  unfold booleanElements
  cases typeName with
  | none => rfl
  | some name =>
      have hname := hneeded name rfl
      simp only [program_withProgram, ← hagree name hname]
      cases hfind : ctx.program.find? name with
      | none => rfl
      | some type => simp only [booleanMembers_of_agreeOn hagree hname hfind]

/-- The containing type has the same static tests for a parameter. -/
theorem staticTests_of_agreeOn (subject : Element) :
    (ctx.withProgram q).staticTests member.containingType subject =
      ctx.staticTests member.containingType subject := by
  unfold staticTests
  rw [program_withProgram, ← hagree _ .container]
  cases hfind : ctx.program.find? member.containingType with
  | none => rfl
  | some type =>
      simp only [Program.methods_eq_of_agreeOn (isClosed_needed _ _) hagree .container hfind]

section Subject

variable {type : TypeDecl} (hfind : ctx.program.find? member.containingType = some type)
  {subject : Element} (hsubject : ctx.IsCandidate member type subject)

include hfind hsubject

/-- The same can be reached from a candidate. -/
theorem secondaryPool_of_agreeOn :
    (ctx.withProgram q).secondaryPool member subject = ctx.secondaryPool member subject := by
  -- the type of a field need not be known, but nothing is asked of a field
  have hmembers : subject.kind ≠ .field →
      (ctx.withProgram q).booleanElements subject.expression subject.valueType =
        ctx.booleanElements subject.expression subject.valueType :=
    fun hfield => booleanElements_of_agreeOn hagree _ (hsubject.needed hfind hfield)
  unfold secondaryPool
  cases hkind : subject.kind with
  | parameter =>
      simp only [hmembers (by simp [hkind]), staticTests_of_agreeOn hagree]
  | type => simp only [hmembers (by simp [hkind])]
  | method => simp only [hmembers (by simp [hkind])]
  | staticMethod => simp only [hmembers (by simp [hkind])]
  | field => rfl
  | derived => rfl

/-- A predicate states the same of a candidate. -/
theorem matchPredicate_of_agreeOn (predicate : Text) (negate : Bool) :
    (ctx.withProgram q).matchPredicate member subject predicate negate =
      ctx.matchPredicate member subject predicate negate := by
  unfold matchPredicate statedCondition? predicateCandidates
  rw [secondaryPool_of_agreeOn hagree hfind hsubject]
  rfl

end Subject

/-- A proposition states the same of several candidates. -/
theorem conditionsOf_of_agreeOn {pool : Pool} (hpool : (ctx.collect member).result = .ok pool)
    (p : Proposition) {subjects : List Element} (hsubjects : subjects ⊆ pool.elements) :
    (ctx.withProgram q).conditionsOf member p subjects = ctx.conditionsOf member p subjects := by
  induction subjects with
  | nil => rfl
  | cons subject subjects ih =>
      obtain ⟨type, executable, hresolves, hsubject⟩ :=
        isCandidate_of_mem hpool (hsubjects List.mem_cons_self)
      unfold conditionsOf
      rw [matchPredicate_of_agreeOn hagree hresolves.type_found hsubject,
        ih fun e he => hsubjects (List.mem_cons_of_mem _ he)]

/-! ## Conditions and guards -/

/-- A proposition has the same condition. -/
theorem propositionCondition_of_agreeOn (p : Proposition) :
    (ctx.withProgram q).propositionCondition member p = ctx.propositionCondition member p := by
  unfold propositionCondition
  rw [matchSubject_of_agreeOn hagree]
  -- the subjects are candidates of the first program, which is all that is needed of them
  refine Run.bind_congr fun subjects hmatch => ?_
  rw [result_matchSubject] at hmatch
  obtain ⟨pool, hpool, rfl⟩ := Run.map_eq_ok_iff.1 hmatch
  rw [conditionsOf_of_agreeOn hagree hpool p]
  rw [Candidate.nearest_eq]
  exact List.filter_subset_self _

/-- So has a comment. -/
theorem textCondition_of_agreeOn (comment : Text) :
    (ctx.withProgram q).textCondition member comment = ctx.textCondition member comment := by
  unfold textCondition conditions
  rw [funext (propositionCondition_of_agreeOn hagree)]
  rfl

/-- And so have the guards of the tags. -/
theorem memberGuards_eq_of_agreeOn :
    (ctx.withProgram q).memberGuards member = ctx.memberGuards member := by
  have hparam : (ctx.withProgram q).paramGuard member = ctx.paramGuard member := by
    funext tag
    rw [paramGuard, paramGuard, textCondition_of_agreeOn hagree]
  have hthrows : (ctx.withProgram q).throwsGuard member = ctx.throwsGuard member := by
    funext tag
    rw [throwsGuard, throwsGuard, textCondition_of_agreeOn hagree]
  rw [memberGuards, memberGuards, hparam, hthrows]

end Agree

/-- The guards of a member, the failure to find them and the events on the way are the same in two
programs that know the same types under the needed names. So neither the order in which types of
distinct names were added makes a difference, nor does adding types that are not needed. -/
theorem memberGuards_of_agreeOn (ctx : Context) (member : Member) :
    (∀ q, (∀ name, Needed ctx.program member name → ctx.program.find? name = q.find? name) →
      (ctx.withProgram q).memberGuards member = ctx.memberGuards member) ∧
    (∀ ts us : List TypeDecl, ts.Perm us → (ts.map (·.name)).Nodup →
      (ctx.withProgram (ts.foldl .add ctx.program)).memberGuards member =
        (ctx.withProgram (us.foldl .add ctx.program)).memberGuards member) ∧
    (∀ ts : List TypeDecl, (∀ t ∈ ts, ¬ Needed ctx.program member t.name) →
      (ctx.withProgram (ts.foldl .add ctx.program)).memberGuards member =
        ctx.memberGuards member) := by
  refine ⟨fun q hagree => memberGuards_eq_of_agreeOn hagree, fun ts us hperm hnames => ?_,
    fun ts hother => memberGuards_eq_of_agreeOn fun name hname => ?_⟩
  · have hsame : ((ctx.withProgram (ts.foldl .add ctx.program)).withProgram
        (us.foldl .add ctx.program)).memberGuards member =
          (ctx.withProgram (ts.foldl .add ctx.program)).memberGuards member :=
      memberGuards_eq_of_agreeOn fun name _ => Program.find?_foldl_add_of_perm hperm hnames
    exact hsame.symm
  · refine (Program.find?_foldl_add_of_absent fun t ht heq => ?_).symm
    exact hother t ht (heq ▸ hname)

/-! ## Types that are not needed -/

/-- A type that nothing about `rangeMember` leads to. -/
def clockType : TypeDecl where
  name := "Clock"
  supertypes := ["Source"]

/-- Its supertype. -/
def sourceType : TypeDecl where
  name := "Source"
  kind := .interfaceType

theorem needed_rangeMember {name : Text} (h : Needed rangeContext.program rangeMember name) :
    name ∈ [("Range" : Text), "int", "boolean"] := by
  have htypes : ∀ t ∈ rangeContext.program.types, t.supertypes = [] := by decide
  induction h with
  | container => decide
  | parameter name hname =>
      have hall : ∀ t ∈ rangeMember.parameterTypes, t ∈ [("Range" : Text), "int", "boolean"] := by
        decide
      exact hall name hname
  | result type m hfind hm =>
      obtain rfl : rangeType = type :=
        Option.some.inj (resolves_rangeMember.type_found.symm.trans hfind)
      rw [methods_rangeType] at hm
      have hall : ∀ m ∈ [betweenMethod, containsMethod, parseMethod],
          m.returnType ∈ [("Range" : Text), "int", "boolean"] := by
        decide
      exact hall m hm
  | supertype name super t hname hfind hsuper ih =>
      rw [htypes t (Program.mem_of_find? hfind)] at hsuper
      exact absurd hsuper List.not_mem_nil

/-- The two types can be added in either order, one of them, or none. -/
theorem memberGuards_of_agreeOn_rangeMember :
    (∀ name, Needed rangeContext.program rangeMember name →
      rangeContext.program.find? name = (rangeContext.program.add clockType).find? name) ∧
    (rangeContext.withProgram (rangeContext.program.add clockType)).memberGuards rangeMember =
      rangeContext.memberGuards rangeMember ∧
    (rangeContext.withProgram
        ([clockType, sourceType].foldl .add rangeContext.program)).memberGuards rangeMember =
      (rangeContext.withProgram
        ([sourceType, clockType].foldl .add rangeContext.program)).memberGuards rangeMember ∧
    (rangeContext.withProgram
        ([clockType, sourceType].foldl .add rangeContext.program)).memberGuards rangeMember =
      rangeContext.memberGuards rangeMember := by
  have hother : ∀ t ∈ [clockType, sourceType],
      ¬ Needed rangeContext.program rangeMember t.name := by
    have hnames : ∀ t ∈ [clockType, sourceType],
        t.name ∉ [("Range" : Text), "int", "boolean"] := by
      decide
    exact fun t ht hneeded => hnames t ht (needed_rangeMember hneeded)
  have hagree : ∀ name, Needed rangeContext.program rangeMember name →
      rangeContext.program.find? name = (rangeContext.program.add clockType).find? name := by
    intro name hname
    rw [Program.find?_add, if_neg]
    rintro rfl
    exact hother clockType List.mem_cons_self hname
  obtain ⟨hlocal, horder, hadded⟩ := memberGuards_of_agreeOn rangeContext rangeMember
  exact ⟨hagree, hlocal _ hagree, horder _ _ (.swap _ _ _) (by decide), hadded _ hother⟩

end Context

end ProseGuard
