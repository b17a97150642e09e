import ProseGuard.Candidate.Collect
import ProseGuard.Proofs.Candidate.Offers

/-!
# What collecting results in

For a member whose executable is known, collecting fails only where mining words does; with the
words at hand the pool is made of the offers listed by `offers`, in their order (`result_collect`).
The lookup of arguments cannot fail, because the types in scope are those that the table of
arguments has an expression for (`callCandidate?_eq`).
-/

namespace ProseGuard

open Program (Parameter Executable TypeDecl Method)
open Comment (Member)
open Candidate (Element Pool)

/-- The containing type of a member is known, and it declares the documented executable. -/
structure Program.Resolves (p : Program) (member : Member) (type : TypeDecl)
    (executable : Executable) : Prop where
  type_found : p.find? member.containingType = some type
  executable_found : p.findExecutable? type member.name member.parameterTypes
    member.isConstructor = some executable

/-- Of a type without supertypes, a method is found among those that it declares. -/
theorem Program.Resolves.of_no_supertypes {p : Program} {member : Member} {type : TypeDecl}
    {m : Method} (htype : p.find? member.containingType = some type)
    (hnone : type.supertypes = []) (hmethod : member.isConstructor = false)
    (hfound : type.methods.find? (fun m => m.name = member.name ∧
      parameterTypes m.parameters = member.parameterTypes) = some m) :
    p.Resolves member type (.method m) where
  type_found := htype
  executable_found := by
    have hkey : ∀ a b : Method, (a.name, parameterTypes a.parameters) =
        (b.name, parameterTypes b.parameters) →
        decide (a.name = member.name ∧ parameterTypes a.parameters = member.parameterTypes) =
          decide (b.name = member.name ∧ parameterTypes b.parameters = member.parameterTypes) := by
      intro a b hab
      obtain ⟨hname, htypes⟩ := Prod.mk.inj hab
      rw [hname, htypes]
    have hall : (type.methods.filter fun m => m.isPublic || !false) = type.methods := by simp
    rw [findExecutable?, hmethod, if_neg Bool.false_ne_true, findMethod?,
      methods_of_no_supertypes _ hnone, find?_distinctBy hkey, hall, hfound]
    rfl

/-- The parameters of the executable that stand in the source have the documented types. -/
theorem Program.Resolves.parameterTypes_written {p : Program} {member : Member} {type : TypeDecl}
    {executable : Executable} (h : p.Resolves member type executable) :
    parameterTypes (Context.writtenParameters member type executable) = member.parameterTypes := by
  have hfound := h.executable_found
  unfold findExecutable? at hfound
  unfold Context.writtenParameters
  split at hfound
  · next hconstructor =>
    obtain ⟨c, hc, rfl⟩ := Option.map_eq_some_iff.1 hfound
    have htypes : (parameterTypes c.parameters).drop (hiddenParameters type) =
        member.parameterTypes := by
      simpa using List.find?_some hc
    rw [if_pos hconstructor, ← htypes]
    exact List.map_drop
  · next hmethod =>
    obtain ⟨m, hm, rfl⟩ := Option.map_eq_some_iff.1 hfound
    have htypes : m.name = member.name ∧ parameterTypes m.parameters = member.parameterTypes := by
      simpa using List.find?_some hm
    rw [if_neg hmethod, List.drop_zero]
    exact htypes.2

namespace Context

variable (ctx : Context) (member : Member)

/-- A documented parameter with the words mined for it. -/
def minedFor (p : Parameter) : Except Failure MinedParameter :=
  (ctx.mine member p.name).result.map fun words => ⟨p.name, p.type, words⟩

/-- What mining for a parameter results in. -/
theorem minedFor_eq_ok_iff {ctx : Context} {member : Member} {p : Parameter} {m : MinedParameter} :
    ctx.minedFor member p = .ok m ↔
      m.name = p.name ∧ m.type = p.type ∧ (ctx.mine member p.name).result = .ok m.words := by
  unfold minedFor
  cases (ctx.mine member p.name).result with
  | error e => simp
  | ok words =>
      rw [Run.ok_map, Except.ok.injEq, Except.ok.injEq]
      constructor
      · rintro rfl
        exact ⟨rfl, rfl, rfl⟩
      · rintro ⟨hname, htype, rfl⟩
        rw [← hname, ← htype]

/-- Mining for the parameters in the source is mining for the documented ones. -/
theorem result_mineAll {written : List Parameter}
    (htypes : Program.parameterTypes written = member.parameterTypes) :
    (ctx.mineAll member written).result = member.parameters.mapM (ctx.minedFor member) := by
  have hlength : written.length = member.parameters.length := by
    simpa [Program.parameterTypes, Member.parameterTypes] using congrArg List.length htypes
  have hpairs : ((parameterNames member written).zip written).map (fun x => (x.1, x.2.type)) =
      member.parameters.map fun p => (p.name, p.type) := by
    refine List.ext_getElem (by simp [parameterNames, hlength]) fun i hleft hright => ?_
    have hi : i < member.parameters.length := by simpa using hright
    have htype : (Program.parameterTypes written)[i]? = (member.parameterTypes)[i]? := by
      rw [htypes]
    have hwritten : i < written.length := by omega
    simp only [Program.parameterTypes, Member.parameterTypes, List.getElem?_map,
      List.getElem?_eq_getElem hi, List.getElem?_eq_getElem hwritten, Option.map_some,
      Option.some.injEq] at htype
    simp [parameterNames, List.getElem?_eq_getElem hi, htype]
  have hmap : ∀ xs : List (Text × Parameter),
      xs.mapM (fun x => ((ctx.mine member x.1).result.map fun words =>
        (⟨x.1, x.2.type, words⟩ : MinedParameter))) =
      (xs.map fun x => (x.1, x.2.type)).mapM fun x =>
        (ctx.mine member x.1).result.map fun words => (⟨x.1, x.2, words⟩ : MinedParameter) :=
    fun xs => by rw [List.mapM_map]; rfl
  rw [mineAll, Run.result_mapM]
  simp only [Run.result_bind, Run.result_pure]
  exact (hmap _).trans (by rw [hpairs, List.mapM_map]; rfl)

/-- The elements of the parameters that words were mined for. -/
def parameterElements (mined : List MinedParameter) : List Element :=
  mined.zipIdx.map fun (p, i) => ctx.parameterCandidate mined p i

/-- Making the elements of the parameters never fails. -/
theorem result_parameterCandidates (mined : List MinedParameter) :
    (ctx.parameterCandidates mined).result = .ok (ctx.parameterElements mined) := by
  rw [parameterCandidates, Run.result_mapM]
  refine Run.mapM_eq_ok_map fun (p, i) _ => ?_
  by_cases h : sharedWords mined p = [] <;> simp [h]

/-- The element for calling a method: on the receiver, or on its type if it is static. -/
def callElement (m : Method) (args : List Text) : Element :=
  if m.isStatic then Candidate.staticMethodElement m args
  else Candidate.methodElement m ctx.receiver args

/-- Whether a method of the containing type can be called: it is not the documented member, all
that it takes is in scope, and it needs no object that is still under construction. -/
def isCallable (executable : Executable) (m : Method) : Bool :=
  !Executable.sameSignature (.method m) executable &&
    (Program.parameterTypes m.parameters).all
      (member.containingType :: member.parameterTypes).contains &&
    (m.isStatic || !member.isConstructor)

/-- The expressions of the first values in scope of the given types. -/
def arguments (table : List (Text × Text)) (types : List Text) : List Text :=
  types.map fun t => (table.lookup t).getD ""

/-- Where the table knows every type in scope, the lookup of arguments does not fail. -/
theorem callCandidate?_eq {executable : Executable} {table : List (Text × Text)} {m : Method}
    (htable : ∀ t ∈ member.containingType :: member.parameterTypes, (table.lookup t).isSome) :
    ctx.callCandidate? member.isConstructor executable
        (member.containingType :: member.parameterTypes) table m =
      .ok (if isCallable member executable m then
        some (ctx.callElement m (arguments table (Program.parameterTypes m.parameters)))
      else none) := by
  unfold callCandidate? isCallable callElement
  by_cases hsame : Executable.sameSignature (.method m) executable
  · simp [hsame]
  · by_cases hscope : (Program.parameterTypes m.parameters).all
        (member.containingType :: member.parameterTypes).contains
    · have hargs : (Program.parameterTypes m.parameters).mapM (argument table) =
          .ok (arguments table (Program.parameterTypes m.parameters)) := by
        refine Run.mapM_eq_ok_map fun t ht => ?_
        have hknown := htable t (by simpa using List.all_eq_true.1 hscope t ht)
        obtain ⟨expression, hlookup⟩ := Option.isSome_iff_exists.1 hknown
        simp [argument, hlookup]
      rw [if_neg (by simp [hsame, hscope]), hargs]
      cases m.isStatic <;> cases member.isConstructor <;> simp [hsame, hscope]
    · simp [hscope]

/-- How conditions write a parameter: by its name, or as an argument place. -/
def parameterExpression (name : Text) (index : Nat) : Text :=
  if ctx.settings.parameterStyle = .name then name
  else "args[" ++ (toString (index : Int) : String) ++ "]"

/-- The element of a parameter is denoted so. -/
theorem expression_parameterElement (p : Parameter) (i : Nat) (words : List Text) :
    (Candidate.parameterElement p.name i p.type words
      (ctx.settings.parameterStyle = .name)).expression = ctx.parameterExpression p.name i := by
  simp only [Candidate.parameterElement, Candidate.compose, decide_eq_true_eq]
  rfl

/-- The values in scope of a documented member: the object itself and the parameters, each type
with an expression for the value. -/
def valuesInScope : List (Text × Text) :=
  (member.containingType, ctx.receiver) ::
    member.parameters.zipIdx.map fun (p, i) => (p.type, ctx.parameterExpression p.name i)

/-- Each type in scope has a value. -/
theorem isSome_lookup_valuesInScope {t : Text}
    (h : t ∈ member.containingType :: member.parameterTypes) :
    ((ctx.valuesInScope member).lookup t).isSome := by
  rw [List.lookup_isSome_iff]
  rcases List.mem_cons.1 h with rfl | h
  · exact ⟨_, List.mem_cons_self, by simp⟩
  · obtain ⟨p, hp, rfl⟩ := List.mem_map.1 h
    obtain ⟨i, hi, rfl⟩ := List.getElem_of_mem hp
    refine ⟨(member.parameters[i].type, ctx.parameterExpression member.parameters[i].name i),
      List.mem_cons_of_mem _ (List.mem_map.2 ⟨(member.parameters[i], i), ?_, rfl⟩), by simp⟩
    exact List.mem_zipIdx_iff_getElem?.2 (by simp [hi])

/-- What was mined for the documented parameters, name by name. -/
theorem names_of_mined {mined : List MinedParameter}
    (h : member.parameters.mapM (ctx.minedFor member) = .ok mined) :
    mined.map (fun m => (m.name, m.type)) = member.parameters.map fun p => (p.name, p.type) := by
  rw [Run.mapM_eq_ok_iff] at h
  rw [← List.forall₂_eq_eq_eq, List.forall₂_map_left_iff, List.forall₂_map_right_iff]
  refine (List.Forall₂.imp (fun p m hm => ?_) h).flip
  obtain ⟨hname, htype, -⟩ := minedFor_eq_ok_iff.1 hm
  exact Prod.ext hname htype

/-- The table of arguments holds the values in scope. -/
theorem argumentTable_eq {type : TypeDecl} {mined : List MinedParameter}
    (hname : type.name = member.containingType)
    (h : member.parameters.mapM (ctx.minedFor member) = .ok mined) :
    ctx.argumentTable type (ctx.parameterElements mined) = ctx.valuesInScope member := by
  -- name, type and place of a parameter are all that its value depends on
  let value : (Text × Text) × Nat → Text × Text :=
    fun x => (x.1.2, ctx.parameterExpression x.1.1 x.2)
  have hmined : (ctx.parameterElements mined).filterMap
      (fun e => e.valueType.map fun t => (t, e.expression)) =
        (mined.map fun m => (m.name, m.type)).zipIdx.map value := by
    rw [parameterElements, List.filterMap_map, List.zipIdx_map, List.map_map,
      ← List.filterMap_eq_map]
    congr 1
    funext x
    simp only [Function.comp_apply, value, Prod.map, parameterCandidate, parameterExpression,
      Candidate.parameterElement, Candidate.compose, decide_eq_true_eq]
    rfl
  have hdocumented : (member.parameters.zipIdx.map
      fun (p, i) => (p.type, ctx.parameterExpression p.name i)) =
        (member.parameters.map fun p => (p.name, p.type)).zipIdx.map value := by
    rw [List.zipIdx_map, List.map_map]
    rfl
  rw [argumentTable, valuesInScope, hname, hmined, hdocumented, ctx.names_of_mined member h]

/-- The elements for the calls that a comment on the member can speak of. -/
def callElements (type : TypeDecl) (executable : Executable) : List Element :=
  ((ctx.program.methods type true).filter (isCallable member executable)).map fun m =>
    ctx.callElement m (arguments (ctx.valuesInScope member) (Program.parameterTypes m.parameters))

/-- The elements that are offered to the pool of a member, in order. -/
def offers (type : TypeDecl) (executable : Executable) (mined : List MinedParameter) :
    List Element :=
  Candidate.typeElement type ctx.receiver ::
    (ctx.parameterElements mined ++ ctx.callElements member type executable ++
      (ctx.program.fields type true).map (Candidate.fieldElement · ctx.receiver))

/-- Collecting fails only where mining words does. -/
theorem result_collect {type : TypeDecl} {executable : Executable}
    (h : ctx.program.Resolves member type executable) :
    (ctx.collect member).result = (member.parameters.mapM (ctx.minedFor member)).map fun mined =>
      .ofOffers (ctx.offers member type executable mined) := by
  have hname : type.name = member.containingType := Program.name_of_find? h.type_found
  have hcollect : (ctx.collect member).result = (ctx.collectFor member type executable).result := by
    simp [collect, h.type_found, h.executable_found]
  rw [hcollect, collectFor, Run.result_bind, Candidate.Pool.result_add, Run.ok_bind,
    Run.result_bind, ctx.result_mineAll member h.parameterTypes_written]
  cases hmined : member.parameters.mapM (ctx.minedFor member) with
  | error e => rfl
  | ok mined =>
      -- the types in scope are those of the table, so looking up arguments cannot fail
      have hcalls : (ctx.program.methods type true).mapM
          (ctx.callCandidate? member.isConstructor executable
            (member.containingType :: member.parameterTypes) (ctx.valuesInScope member)) =
          .ok ((ctx.program.methods type true).map fun m =>
            if isCallable member executable m then
              some (ctx.callElement m
                (arguments (ctx.valuesInScope member) (Program.parameterTypes m.parameters)))
            else none) :=
        Run.mapM_eq_ok_map fun m _ =>
          ctx.callCandidate?_eq member fun t ht => ctx.isSome_lookup_valuesInScope member ht
      simp only [Run.ok_bind, Run.ok_map, Run.result_bind, Run.result_ofResult,
        ctx.result_parameterCandidates, ctx.argumentTable_eq member hname hmined,
        h.parameterTypes_written, hname, hcalls, Candidate.Pool.result_addAll]
      have hfilter : (((ctx.program.methods type true).map fun m =>
          if isCallable member executable m then
            some (ctx.callElement m
              (arguments (ctx.valuesInScope member) (Program.parameterTypes m.parameters)))
          else none).filterMap id) = ctx.callElements member type executable := by
        rw [List.filterMap_map, callElements, ← List.filterMap_eq_map, List.filterMap_filter]
        rfl
      rw [hfilter]
      rfl

/-- So a pool that is collected is made of offers. -/
theorem exists_offers {type : TypeDecl} {executable : Executable} {pool : Pool}
    (h : ctx.program.Resolves member type executable)
    (hpool : (ctx.collect member).result = .ok pool) :
    ∃ mined, member.parameters.mapM (ctx.minedFor member) = .ok mined ∧
      pool = .ofOffers (ctx.offers member type executable mined) := by
  rw [ctx.result_collect member h] at hpool
  obtain ⟨mined, hmined, hoffers⟩ := Run.map_eq_ok_iff.1 hpool
  exact ⟨mined, hmined, hoffers.symm⟩

/-! ## A member to look at -/

/-- A method that is documented below. -/
def betweenMethod : Method where
  name := "between"
  parameters := [⟨"low", "int"⟩, ⟨"high", "int"⟩]
  returnType := "Range"
  declaringType := "Range"

/-- A method that can be called with a parameter of `betweenMethod`. -/
def containsMethod : Method where
  name := "contains"
  parameters := [⟨"value", "int"⟩]
  returnType := "boolean"
  declaringType := "Range"

/-- A method for which `betweenMethod` has no argument. -/
def parseMethod : Method where
  name := "parse"
  parameters := [⟨"text", "java.lang.String"⟩]
  returnType := "Range"
  isStatic := true
  declaringType := "Range"

/-- The type that declares the methods. -/
def rangeType : TypeDecl where
  name := "Range"
  methods := [betweenMethod, containsMethod, parseMethod]

/-- The documented method: a comment on one parameter speaks of the other. -/
def rangeMember : Member where
  name := "between"
  containingType := "Range"
  parameters := [⟨"low", "int"⟩, ⟨"high", "int"⟩]
  paramTags := [⟨"low", "must be high; must not be negative"⟩, ⟨"high", "must not be negative"⟩]

/-- Standard settings, and sentences cut at their verbs. -/
def rangeContext : Context where
  program := .ofTypes [rangeType]
  source := .pattern
  settings := .standard

theorem methods_rangeType :
    rangeContext.program.methods rangeType true = [betweenMethod, containsMethod, parseMethod] := by
  rw [Program.methods_of_no_supertypes _ rfl]
  decide

theorem resolves_rangeMember :
    rangeContext.program.Resolves rangeMember rangeType (.method betweenMethod) :=
  .of_no_supertypes (by decide) rfl rfl (by decide)

/-- What is mined for the parameters: one word for the first alone, one for both. -/
def rangeMined : List MinedParameter :=
  [⟨"low", "int", ["high", "negative"]⟩, ⟨"high", "int", ["negative"]⟩]

theorem mined_rangeMember :
    rangeMember.parameters.mapM (rangeContext.minedFor rangeMember) = .ok rangeMined := by
  rw [Run.mapM_eq_ok_iff]
  refine .cons (minedFor_eq_ok_iff.2 ⟨rfl, rfl, ?_⟩)
    (.cons (minedFor_eq_ok_iff.2 ⟨rfl, rfl, ?_⟩) .nil)
  · exact congrArg Except.ok (by decide)
  · exact congrArg Except.ok (by decide)

/-- The pool of the documented method. -/
def rangePool : Pool :=
  .ofOffers [
    Candidate.typeElement rangeType "target",
    Candidate.parameterElement "low" 0 "int" ["high"] true,
    Candidate.parameterElement "high" 1 "int" [] true,
    Candidate.methodElement containsMethod "target" ["low"]]

theorem collect_rangeMember : (rangeContext.collect rangeMember).result = .ok rangePool := by
  have hoffers : rangeContext.offers rangeMember rangeType (.method betweenMethod) rangeMined = [
      Candidate.typeElement rangeType "target",
      Candidate.parameterElement "low" 0 "int" ["high"] true,
      Candidate.parameterElement "high" 1 "int" [] true,
      Candidate.methodElement containsMethod "target" ["low"]] := by
    rw [offers, callElements, methods_rangeType, Program.fields_of_no_supertypes _ rfl]
    decide
  rw [result_collect _ _ resolves_rangeMember, mined_rangeMember, Run.ok_map, hoffers, rangePool]

end Context

end ProseGuard
