import ProseGuard.Proofs.Candidate.Collect

/-!
# The calls in a pool

Which methods of its type the comment on a member can speak of, and how it calls them. A method is
callable if it is not the documented member, takes nothing but values in scope, and needs no object
that is still under construction. Main statement: `collect_calls`, by which the pool holds the calls
of exactly the callable methods, each argument being the first value in scope of its type, and by
which collecting fails only where the source of propositions does.
-/

namespace ProseGuard.Context

open Program (Parameter Executable TypeDecl Method)
open Comment (Member)
open Candidate (Element Pool)

/-- A method of the containing type that the comment on the member can speak of. -/
structure Callable (member : Member) (executable : Executable) (m : Method) : Prop where
  other : ¬ Executable.sameSignature (.method m) executable
  in_scope : ∀ t ∈ Program.parameterTypes m.parameters,
    t = member.containingType ∨ t ∈ member.parameterTypes
  no_object : m.isStatic ∨ ¬ member.isConstructor

/-- `IsArgument ctx member t x` says that a call passes `x` for a parameter of type `t`: the object
itself for the containing type, else the first documented parameter of that very type. -/
inductive IsArgument (ctx : Context) (member : Member) : Text → Text → Prop where
  | receiver : IsArgument ctx member member.containingType ctx.receiver
  | parameter (i : Nat) (p : Parameter) :
      member.parameters[i]? = some p → p.type ≠ member.containingType →
      (∀ j q, j < i → member.parameters[j]? = some q → q.type ≠ p.type) →
      IsArgument ctx member p.type (ctx.parameterExpression p.name i)

/-- An element of the pool, up to its identity, is the call of the method. -/
def Contributes (ctx : Context) (member : Member) (pool : Pool) (m : Method) : Prop :=
  ∃ args, List.Forall₂ (IsArgument ctx member) (Program.parameterTypes m.parameters) args ∧
    ∃ e ∈ pool.elements, e.identity = (ctx.callElement m args).identity

variable {ctx : Context} {member : Member} {executable : Executable} {m : Method}

/-- The executable check decides which methods are callable. -/
theorem isCallable_iff : isCallable member executable m ↔ Callable member executable m := by
  unfold isCallable
  simp only [Bool.and_eq_true, Bool.not_eq_true', Bool.or_eq_true, List.all_eq_true,
    List.contains_iff_mem, List.mem_cons]
  constructor
  · rintro ⟨⟨hother, hscope⟩, hobject⟩
    exact ⟨by simp [hother], hscope, by simpa using hobject⟩
  · rintro ⟨hother, hscope, hobject⟩
    exact ⟨⟨by simpa using hother, hscope⟩, by simpa using hobject⟩

/-- An argument has a type in scope. -/
theorem IsArgument.in_scope {t x : Text} (h : IsArgument ctx member t x) :
    t = member.containingType ∨ t ∈ member.parameterTypes := by
  cases h with
  | receiver => exact .inl rfl
  | parameter i p hplace hother hfirst =>
      exact .inr (List.mem_map_of_mem (List.mem_of_getElem? hplace))

/-- Of values given by type, the lookup finds the first. -/
theorem first_of_lookup {parameters : List Parameter} (value : Parameter → Nat → Text) {k : Nat}
    {t x : Text} (h : ((parameters.zipIdx k).map fun (p, i) => (p.type, value p i)).lookup t =
      some x) :
    ∃ i p, parameters[i]? = some p ∧ p.type = t ∧ x = value p (k + i) ∧
      ∀ j q, j < i → parameters[j]? = some q → q.type ≠ t := by
  induction parameters generalizing k with
  | nil => exact nomatch h
  | cons p parameters ih =>
      -- the places of the rest are counted from the next one on
      rw [List.zipIdx_cons, List.map_cons, List.lookup_cons] at h
      by_cases htype : t = p.type
      · refine ⟨0, p, rfl, htype.symm, ?_, fun j q hj => absurd hj (Nat.not_lt_zero j)⟩
        simpa [htype] using h.symm
      · have hne : (t == p.type) = false := beq_eq_false_iff_ne.2 htype
        simp only [hne] at h
        obtain ⟨i, q, hplace, hq, rfl, hfirst⟩ := ih h
        refine ⟨i + 1, q, hplace, hq, by rw [Nat.add_right_comm, Nat.add_assoc], ?_⟩
        intro j r hj hr
        cases j with
        | zero =>
            obtain rfl : p = r := Option.some.inj hr
            exact Ne.symm htype
        | succ j => exact hfirst j r (by omega) hr

/-- What the lookup among the values in scope finds is the argument of its type. -/
theorem isArgument_of_lookup {t x : Text} (h : (ctx.valuesInScope member).lookup t = some x) :
    IsArgument ctx member t x := by
  rw [valuesInScope, List.lookup_cons] at h
  by_cases htype : t = member.containingType
  · obtain rfl : ctx.receiver = x := by simpa [htype] using h
    exact htype ▸ .receiver
  · have hne : (t == member.containingType) = false := beq_eq_false_iff_ne.2 htype
    simp only [hne] at h
    obtain ⟨i, p, hplace, rfl, rfl, hfirst⟩ :=
      first_of_lookup (fun p i => ctx.parameterExpression p.name i) h
    simpa using IsArgument.parameter i p hplace htype hfirst

/-- A callable method is called with the argument of each of its parameter types. -/
theorem forall₂_arguments (h : Callable member executable m) :
    List.Forall₂ (IsArgument ctx member) (Program.parameterTypes m.parameters)
      (arguments (ctx.valuesInScope member) (Program.parameterTypes m.parameters)) := by
  rw [arguments, List.forall₂_map_right_iff, List.forall₂_same]
  intro t ht
  have hscope : t ∈ member.containingType :: member.parameterTypes :=
    List.mem_cons.2 (h.in_scope t ht)
  obtain ⟨x, hx⟩ := Option.isSome_iff_exists.1 (ctx.isSome_lookup_valuesInScope member hscope)
  rw [hx]
  exact isArgument_of_lookup hx

/-- The call of a method has a word exactly when the method has a name. -/
theorem isNamed_callElement (args : List Text) :
    (ctx.callElement m args).isNamed ↔ m.name ≠ "" := by
  unfold callElement Element.isNamed
  split
  · show (decide (m.name ≠ "") || false) = true ↔ _
    rw [Bool.or_false, decide_eq_true_iff]
  · show (decide (m.name ≠ "") || false) = true ↔ _
    rw [Bool.or_false, decide_eq_true_iff]

/-- The kind of a call tells whether the method is static. -/
theorem kind_callElement (args : List Text) :
    (ctx.callElement m args).kind = if m.isStatic then .staticMethod else .method := by
  unfold callElement
  split <;> rfl

/-- Calls of one identity are calls of methods that have one signature and are static alike. -/
theorem identity_callElement_inj {m' : Method} {args args' : List Text}
    (h : (ctx.callElement m args).identity = (ctx.callElement m' args').identity) :
    m.signature = m'.signature ∧ m.isStatic = m'.isStatic := by
  have hkind : (ctx.callElement m args).kind = (ctx.callElement m' args').kind :=
    congrArg Prod.fst h
  have hkey : (ctx.callElement m args).key.canonical = (ctx.callElement m' args').key.canonical :=
    congrArg Prod.snd h
  have hstatic : m.isStatic = m'.isStatic := by
    rw [kind_callElement, kind_callElement] at hkind
    cases hm : m.isStatic <;> cases hm' : m'.isStatic <;> simp [hm, hm'] at hkind <;> rfl
  refine ⟨?_, hstatic⟩
  unfold callElement at hkey
  rw [← hstatic] at hkey
  split at hkey
  · exact Candidate.Key.text.inj (Candidate.Key.cons.inj hkey).1
  · exact Candidate.Key.text.inj (Candidate.Key.cons.inj hkey).1

/-- A method is callable if one of its signature is, and its own parameters have arguments. -/
theorem Callable.of_signature {m' : Method} {args : List Text} (h : Callable member executable m')
    (hsignature : m'.signature = m.signature) (hstatic : m'.isStatic = m.isStatic)
    (hargs : List.Forall₂ (IsArgument ctx member) (Program.parameterTypes m.parameters) args) :
    Callable member executable m where
  other := by
    have hother := h.other
    cases executable with
    | method a => simpa [Executable.sameSignature, hsignature] using hother
    | constructor c => exact hother
  in_scope := by
    intro t ht
    obtain ⟨i, hi, rfl⟩ := List.getElem_of_mem ht
    have hplace : i < args.length := hargs.length_eq ▸ hi
    exact (hargs.get hi hplace).in_scope
  no_object := hstatic ▸ h.no_object

variable {type : TypeDecl} {mined : List MinedParameter}

/-- Among the offers, those that are calls are the calls of the callable methods. -/
theorem mem_callElements_iff {e : Element} :
    e ∈ ctx.callElements member type executable ↔
      ∃ m ∈ ctx.program.methods type true, Callable member executable m ∧
        e = ctx.callElement m
          (arguments (ctx.valuesInScope member) (Program.parameterTypes m.parameters)) := by
  simp only [callElements, List.mem_map, List.mem_filter, isCallable_iff]
  constructor
  · rintro ⟨m, ⟨hm, hcallable⟩, rfl⟩
    exact ⟨m, hm, hcallable, rfl⟩
  · rintro ⟨m, hm, hcallable, rfl⟩
    exact ⟨m, ⟨hm, hcallable⟩, rfl⟩

/-- An offer of the kind of a call is one of the calls. -/
theorem mem_callElements_of_kind {e : Element}
    (h : e ∈ ctx.offers member type executable mined)
    (hkind : e.kind = .method ∨ e.kind = .staticMethod) :
    e ∈ ctx.callElements member type executable := by
  have hcases : e = Candidate.typeElement type ctx.receiver ∨
      (e ∈ ctx.parameterElements mined ∨ e ∈ ctx.callElements member type executable) ∨
        e ∈ (ctx.program.fields type true).map (Candidate.fieldElement · ctx.receiver) := by
    simpa [offers, or_assoc] using h
  rcases hcases with rfl | (hparameter | hcall) | hfield
  · rcases hkind with hkind | hkind <;> cases hkind
  · obtain ⟨x, -, rfl⟩ := List.mem_map.1 hparameter
    rcases hkind with hkind | hkind <;> cases hkind
  · exact hcall
  · obtain ⟨f, -, rfl⟩ := List.mem_map.1 hfield
    rcases hkind with hkind | hkind <;> cases hkind

/-- Mining fails only where the source of propositions does, on a comment about the parameter. -/
theorem exists_tag_of_minedFor_eq_error {p : Parameter} {failure : Failure}
    (h : ctx.minedFor member p = .error failure) :
    ∃ tag ∈ member.paramTags,
      (ctx.source.read (Comment.supplySubject tag.parameter tag.comment)).result =
        .error failure := by
  unfold minedFor at h
  rw [result_mine, Run.result_mapM] at h
  cases hread : (member.tagsFor p.name).mapM fun tag =>
      (ctx.source.read (Comment.supplySubject p.name tag.comment)).result with
  | ok found => simp [hread] at h
  | error e =>
      rw [hread] at h
      obtain rfl : e = failure := Except.error.inj h
      obtain ⟨tag, htag, hfail⟩ := Run.exists_of_mapM_eq_error hread
      simp only [Member.tagsFor, List.mem_filter, decide_eq_true_eq] at htag
      exact ⟨tag, htag.1, htag.2 ▸ hfail⟩

/-- The pool of a member whose executable is known holds the calls of exactly the callable methods
that have a name, up to identity, and no other calls; each argument is the first value in scope of
its type. Collecting fails only with a failure of the source of propositions on a tag's comment. -/
theorem collect_calls (h : ctx.program.Resolves member type executable) :
    (∃ pool, (ctx.collect member).result = .ok pool ∧
      (∀ m ∈ ctx.program.methods type true, m.name ≠ "" →
        (Contributes ctx member pool m ↔ Callable member executable m)) ∧
      ∀ e ∈ pool.elements, e.kind = .method ∨ e.kind = .staticMethod →
        ∃ m ∈ ctx.program.methods type true, m.name ≠ "" ∧ Callable member executable m ∧
          ∃ args, List.Forall₂ (IsArgument ctx member) (Program.parameterTypes m.parameters) args ∧
            e = ctx.callElement m args) ∨
    ∃ tag ∈ member.paramTags, ∃ failure,
      (ctx.source.read (Comment.supplySubject tag.parameter tag.comment)).result =
        .error failure ∧
      (ctx.collect member).result = .error failure := by
  rw [ctx.result_collect member h]
  cases hmined : member.parameters.mapM (ctx.minedFor member) with
  | error failure =>
      obtain ⟨p, -, hp⟩ := Run.exists_of_mapM_eq_error hmined
      obtain ⟨tag, htag, hread⟩ := exists_tag_of_minedFor_eq_error hp
      exact .inr ⟨tag, htag, failure, hread, rfl⟩
  | ok mined =>
      have hcalls : ∀ e ∈ (Pool.ofOffers (ctx.offers member type executable mined)).elements,
          e.kind = .method ∨ e.kind = .staticMethod →
          ∃ m ∈ ctx.program.methods type true, m.name ≠ "" ∧ Callable member executable m ∧
            ∃ args, List.Forall₂ (IsArgument ctx member) (Program.parameterTypes m.parameters)
              args ∧ e = ctx.callElement m args := by
        intro e he hkind
        obtain ⟨hoffer, hnamed⟩ := Pool.of_mem_ofOffers he
        obtain ⟨m, hm, hcallable, rfl⟩ :=
          mem_callElements_iff.1 (mem_callElements_of_kind hoffer hkind)
        exact ⟨m, hm, (isNamed_callElement _).1 hnamed, hcallable, _, forall₂_arguments hcallable,
          rfl⟩
      refine .inl ⟨_, rfl, fun m hm hname => ⟨?_, fun hcallable => ?_⟩, hcalls⟩
      · -- an element of that identity is itself a call, of a method with the same signature
        rintro ⟨args, hargs, e, he, hidentity⟩
        have hkind : e.kind = .method ∨ e.kind = .staticMethod := by
          have : e.kind = (ctx.callElement m args).kind := congrArg Prod.fst hidentity
          rw [this, kind_callElement]
          split
          · exact .inr rfl
          · exact .inl rfl
        obtain ⟨m', -, -, hcallable, args', -, rfl⟩ := hcalls e he hkind
        obtain ⟨hsignature, hstatic⟩ := identity_callElement_inj hidentity
        exact hcallable.of_signature hsignature hstatic hargs
      · have hoffer : ctx.callElement m
            (arguments (ctx.valuesInScope member) (Program.parameterTypes m.parameters)) ∈
              ctx.offers member type executable mined := by
          have := mem_callElements_iff.2 ⟨m, hm, hcallable, rfl⟩
          simp [offers, this]
        obtain ⟨e, he, hidentity⟩ :=
          Pool.exists_mem_ofOffers hoffer ((isNamed_callElement _).2 hname)
        exact ⟨_, forall₂_arguments hcallable, e, he, hidentity⟩

/-- From a comment on the bounds of a range one can ask what the range contains, but not parse a
text. -/
theorem collect_calls_rangeMember :
    rangeContext.program.Resolves rangeMember rangeType (.method betweenMethod) ∧
      ∃ pool, (rangeContext.collect rangeMember).result = .ok pool ∧
        Contributes rangeContext rangeMember pool containsMethod ∧
        ¬ Contributes rangeContext rangeMember pool parseMethod := by
  refine ⟨resolves_rangeMember, ?_⟩
  rcases collect_calls resolves_rangeMember with ⟨pool, hpool, hiff, -⟩ | ⟨tag, -, e, hread, -⟩
  · rw [methods_rangeType] at hiff
    have hcontains := hiff containsMethod (by simp) (by decide)
    have hparse := hiff parseMethod (by simp) (by decide)
    rw [← isCallable_iff] at hcontains hparse
    refine ⟨pool, hpool, hcontains.2 (by decide), ?_⟩
    intro h
    exact absurd (hparse.1 h) (by decide)
  · exact nomatch hread

end ProseGuard.Context
