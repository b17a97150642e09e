import ProseGuard.Proofs.Candidate.Ambiguity
import ProseGuard.Proofs.Candidate.Calls
import ProseGuard.Proofs.Program.Declared

/-!
# Documented parameters

Names of parameters come from the comment and their types from the program, where constructors of
enumerations have parameters that no comment speaks of. Read `collects_parameters` first: for a
member that is known by its types, the pool lists the documented parameters place by place. Main
statement: `documented_parameters`, by which it takes no more than a declaration of these types.
-/

namespace ProseGuard.Context

open Program (Parameter Executable TypeDecl Constructor)
open Comment (Member)
open Candidate (Element Pool)

/-- Reading a comment on a parameter fails so. -/
def CommentFails (ctx : Context) (member : Member) (failure : Failure) : Prop :=
  ∃ tag ∈ member.paramTags,
    (ctx.source.read (Comment.supplySubject tag.parameter tag.comment)).result = .error failure

/-- Collecting makes a pool of which something holds, or it fails as reading a comment on a
parameter does. -/
def Collects (ctx : Context) (member : Member) (holds : Pool → Prop) : Prop :=
  (∃ pool, (ctx.collect member).result = .ok pool ∧ holds pool) ∨
    ∃ failure, ctx.CommentFails member failure ∧ (ctx.collect member).result = .error failure

/-- The parameters of the pool are the documented ones in order, each related so to the element at
its place. -/
structure ListsParameters (member : Member) (related : Nat → Parameter → Element → Prop)
    (pool : Pool) : Prop where
  length : (pool.ofKind .parameter).length = member.parameters.length
  each : ∀ i p, member.parameters[i]? = some p →
    ∃ e, (pool.ofKind .parameter)[i]? = some e ∧ related i p e

/-- An element stands for the parameter at a place. -/
structure StandsFor (ctx : Context) (i : Nat) (p : Parameter) (e : Element) : Prop where
  index : e.index = some (i : Int)
  valueType : e.valueType = some p.type
  name : e.identifiers.head? = some p.name
  expression : e.expression = ctx.parameterExpression p.name i

variable {ctx : Context} {member : Member} {type : TypeDecl} {executable : Executable}
  {mined : List MinedParameter}

/-- The elements of parameters stand where these do. -/
theorem getElem?_parameterElements (i : Nat) :
    (ctx.parameterElements mined)[i]? =
      mined[i]?.map fun m => ctx.parameterCandidate mined m i := by
  rw [parameterElements, List.getElem?_map, List.getElem?_zipIdx, Option.map_map, Nat.zero_add]
  rfl

/-- What was mined for named parameters is named. -/
theorem name_ne_of_mined (hnamed : ∀ p ∈ member.parameters, p.name ≠ "")
    (hmined : member.parameters.mapM (ctx.minedFor member) = .ok mined) :
    ∀ m ∈ mined, m.name ≠ "" := by
  intro m hm
  obtain ⟨i, hi⟩ := List.getElem?_of_mem hm
  obtain ⟨p, hp⟩ := exists_parameter hmined hi
  obtain ⟨hname, -, -⟩ := minedFor_eq_ok_iff.1 (Run.eq_ok_of_mapM hmined hp hi)
  rw [hname]
  exact hnamed p (List.mem_of_getElem? hp)

/-- The pool of a known member lists its documented parameters, each by the element made from what
was mined for it, and collecting fails only where a comment cannot be read. -/
theorem collects_parameters (h : ctx.program.Resolves member type executable)
    (hnamed : ∀ p ∈ member.parameters, p.name ≠ "") {related : Nat → Parameter → Element → Prop}
    (hrelated : ∀ mined, member.parameters.mapM (ctx.minedFor member) = .ok mined →
      ∀ i p m, member.parameters[i]? = some p → mined[i]? = some m →
        related i p (ctx.parameterCandidate mined m i)) :
    ctx.Collects member (ListsParameters member related) := by
  rw [Collects, ctx.result_collect member h]
  cases hmined : member.parameters.mapM (ctx.minedFor member) with
  | error failure =>
      obtain ⟨p, -, hp⟩ := Run.exists_of_mapM_eq_error hmined
      obtain ⟨tag, htag, hread⟩ := exists_tag_of_minedFor_eq_error hp
      exact .inr ⟨failure, ⟨tag, htag, hread⟩, rfl⟩
  | ok mined =>
      refine .inl ⟨_, rfl, ?_, fun i p hp => ?_⟩
      · rw [ofKind_parameter (name_ne_of_mined hnamed hmined), parameterElements, List.length_map,
          List.length_zipIdx]
        exact (Run.length_eq_of_mapM hmined).symm
      · obtain ⟨m, hm⟩ := exists_mined hmined hp
        refine ⟨_, ?_, hrelated mined hmined i p m hp hm⟩
        rw [ofKind_parameter (name_ne_of_mined hnamed hmined), getElem?_parameterElements, hm,
          Option.map_some]

/-- The element made for a documented parameter stands for it. -/
theorem standsFor_parameterCandidate {i : Nat} {p : Parameter} {m : MinedParameter}
    (h : ctx.minedFor member p = .ok m) :
    ctx.StandsFor i p (ctx.parameterCandidate mined m i) := by
  obtain ⟨hname, htype, -⟩ := minedFor_eq_ok_iff.1 h
  rw [parameterCandidate, hname, htype]
  exact ⟨rfl, rfl, rfl, ctx.expression_parameterElement p i _⟩

/-- Where nothing is declared of the name and the types of a member, the pool is empty. -/
theorem collect_of_not_declares (htype : ctx.program.find? member.containingType = some type)
    (h : ¬∃ e, ctx.program.Declares type member.name member.parameterTypes member.isConstructor e) :
    (ctx.collect member).result = .ok .empty := by
  have hnone : ctx.program.findExecutable? type member.name member.parameterTypes
      member.isConstructor = none := by
    rw [← Option.not_isSome_iff_eq_none, Option.isSome_iff_exists,
      Program.exists_findExecutable?_iff]
    exact h
  simp [collect, htype, hnone]

/-- If a known type declares something of the name and the types of a member, it is found, and the
parameters in the pool stand for the documented ones place by place, unless reading a comment fails;
else the pool is empty. The constructors that the type lists stay as they are written. -/
theorem documented_parameters (htype : ctx.program.find? member.containingType = some type)
    (hnamed : ∀ p ∈ member.parameters, p.name ≠ "") :
    ((∃ e, ctx.program.Declares type member.name member.parameterTypes member.isConstructor e) →
      (∃ e, ctx.program.Declares type member.name member.parameterTypes member.isConstructor e ∧
        ctx.program.Resolves member type e) ∧
      ctx.Collects member (ListsParameters member ctx.StandsFor)) ∧
    ((¬∃ e, ctx.program.Declares type member.name member.parameterTypes
        member.isConstructor e) → (ctx.collect member).result = .ok .empty) ∧
    (Program.constructors type).map (Program.written type) = type.constructors := by
  refine ⟨fun hdeclared => ?_, collect_of_not_declares htype,
    Program.map_written_constructors type⟩
  obtain ⟨e, hfound⟩ := Program.exists_findExecutable?_iff.2 hdeclared
  have hresolves : ctx.program.Resolves member type e := ⟨htype, hfound⟩
  refine ⟨⟨e, Program.declares_of_findExecutable? hfound, hresolves⟩, ?_⟩
  refine collects_parameters hresolves hnamed fun mined hmined i p m hp hm => ?_
  exact standsFor_parameterCandidate (Run.eq_ok_of_mapM hmined hp hm)

/-! ## A constructor of an enumeration -/

/-- The constructor as it is written. -/
def shadeConstructor : Constructor where
  parameters := [⟨"level", "int"⟩]
  declaringType := "Shade"

/-- The enumeration. -/
def shadeType : TypeDecl where
  name := "Shade"
  kind := .enumType
  constructors := [shadeConstructor]

/-- The constructor as it is documented, its parameter under another name. -/
def shadeMember : Member where
  name := "Shade"
  containingType := "Shade"
  parameters := [⟨"depth", "int"⟩]
  isConstructor := true

/-- Parameters are written as argument places. -/
def shadeContext : Context where
  program := .ofTypes [shadeType]
  source := .pattern
  settings := { Settings.standard with parameterStyle := .args }

/-- The pool of the constructor lists the parameter that is documented and no other. -/
theorem documented_parameters_shadeMember :
    shadeContext.program.find? shadeMember.containingType = some shadeType ∧
      (∀ p ∈ shadeMember.parameters, p.name ≠ "") ∧
      ∃ pool, (shadeContext.collect shadeMember).result = .ok pool ∧
        ∃ e, pool.ofKind .parameter = [e] ∧ e.index = some 0 ∧ e.valueType = some "int" ∧
          e.identifiers.head? = some "depth" ∧ e.expression = "args[0]" := by
  have htype : shadeContext.program.find? shadeMember.containingType = some shadeType := by
    decide
  have hnamed : ∀ p ∈ shadeMember.parameters, p.name ≠ "" := by decide
  refine ⟨htype, hnamed, ?_⟩
  have hdeclared : ∃ e, shadeContext.program.Declares shadeType shadeMember.name
      shadeMember.parameterTypes shadeMember.isConstructor e :=
    ⟨_, .constructor shadeConstructor List.mem_cons_self rfl⟩
  obtain ⟨-, hcollects⟩ := (documented_parameters htype hnamed).1 hdeclared
  rcases hcollects with ⟨pool, hpool, hlength, heach⟩ | ⟨failure, ⟨tag, htag, -⟩, -⟩
  · obtain ⟨e, he, hstands⟩ := heach 0 ⟨"depth", "int"⟩ rfl
    obtain ⟨only, honly⟩ := List.length_eq_one_iff.1 hlength
    rw [honly] at he
    obtain rfl : only = e := Option.some.inj he
    refine ⟨pool, hpool, only, honly, hstands.index, hstands.valueType, hstands.name, ?_⟩
    rw [hstands.expression]
    decide
  · exact absurd htag List.not_mem_nil

end ProseGuard.Context
