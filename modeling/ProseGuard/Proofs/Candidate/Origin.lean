import ProseGuard.Proofs.Candidate.Calls
import ProseGuard.Proofs.Candidate.Parameters

/-!
# Where candidates come from

A pool is empty unless the program knows the containing type and finds the documented executable
(`collect_cases`). What it holds then is the containing type, a documented parameter, the call of a
method of the type or one of its fields: `isCandidate_of_mem`.
-/

namespace ProseGuard.Context

open Program (Parameter Executable TypeDecl Method Field)
open Comment (Member)
open Candidate (Element Pool)

/-- What the candidates of a member of the given type are made from. -/
inductive IsCandidate (ctx : Context) (member : Member) (type : TypeDecl) : Element → Prop where
  | type : IsCandidate ctx member type (Candidate.typeElement type ctx.receiver)
  | parameter (i : Nat) (p : Parameter) (words : List Text) : member.parameters[i]? = some p →
      IsCandidate ctx member type
        (Candidate.parameterElement p.name i p.type words (ctx.settings.parameterStyle = .name))
  | call (m : Method) (args : List Text) : m ∈ ctx.program.methods type true →
      List.Forall₂ (IsArgument ctx member) (Program.parameterTypes m.parameters) args →
      IsCandidate ctx member type (ctx.callElement m args)
  | field (f : Field) : f ∈ ctx.program.fields type true →
      IsCandidate ctx member type (Candidate.fieldElement f ctx.receiver)

variable {ctx : Context} {member : Member} {pool : Pool}

/-- A pool is empty or made from the offers for a known executable. -/
theorem collect_cases (h : (ctx.collect member).result = .ok pool) :
    pool = .empty ∨ ∃ type executable mined, ctx.program.Resolves member type executable ∧
      member.parameters.mapM (ctx.minedFor member) = .ok mined ∧
      pool = .ofOffers (ctx.offers member type executable mined) := by
  cases htype : ctx.program.find? member.containingType with
  | none =>
      left
      simpa [collect, htype, eq_comm] using h
  | some type =>
      cases hexecutable : ctx.program.findExecutable? type member.name member.parameterTypes
          member.isConstructor with
      | none =>
          left
          simpa [collect, htype, hexecutable, eq_comm] using h
      | some executable =>
          right
          have hresolves : ctx.program.Resolves member type executable := ⟨htype, hexecutable⟩
          obtain ⟨mined, hmined, hpool⟩ := ctx.exists_offers member hresolves h
          exact ⟨type, executable, mined, hresolves, hmined, hpool⟩

/-- What is offered to a pool is a candidate. -/
theorem isCandidate_of_mem_offers {type : TypeDecl} {executable : Executable}
    {mined : List MinedParameter}
    (hmined : member.parameters.mapM (ctx.minedFor member) = .ok mined) {e : Element}
    (h : e ∈ ctx.offers member type executable mined) : ctx.IsCandidate member type e := by
  rw [offers, List.mem_cons, List.mem_append, List.mem_append] at h
  rcases h with rfl | (hparameter | hcall) | hfield
  · exact .type
  · obtain ⟨i, m, hm, rfl⟩ := mem_parameterElements_iff.1 hparameter
    obtain ⟨hi, -⟩ := List.getElem?_eq_some_iff.1 hm
    have hlength := Run.length_eq_of_mapM hmined
    have hplace : member.parameters[i]? = some member.parameters[i] :=
      List.getElem?_eq_getElem (by omega)
    obtain ⟨hname, htype, -⟩ := minedFor_eq_ok_iff.1 (Run.eq_ok_of_mapM hmined hplace hm)
    rw [parameterCandidate, hname, htype]
    exact .parameter i _ _ hplace
  · obtain ⟨m, hm, hcallable, rfl⟩ := mem_callElements_iff.1 hcall
    exact .call m _ hm (forall₂_arguments hcallable)
  · obtain ⟨f, hf, rfl⟩ := List.mem_map.1 hfield
    exact .field f hf

/-- What stands in the pool of a member is a candidate of a known type that declares the member. -/
theorem isCandidate_of_mem (h : (ctx.collect member).result = .ok pool) {e : Element}
    (he : e ∈ pool.elements) :
    ∃ type executable, ctx.program.Resolves member type executable ∧
      ctx.IsCandidate member type e := by
  rcases collect_cases h with rfl | ⟨type, executable, mined, hresolves, hmined, rfl⟩
  · exact absurd he List.not_mem_nil
  · exact ⟨type, executable, hresolves,
      isCandidate_of_mem_offers hmined (Pool.of_mem_ofOffers he).1⟩

end ProseGuard.Context
