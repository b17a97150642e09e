import ProseGuard.Proofs.Program.Listing

/-!
# What is declared is found

A type declares the methods of its lineage that can be seen from it and the constructors that it
lists (`Declares`). A constructor of an enumeration is compiled with parameters that are not
written, and it is looked up by those that are. Main statements: `exists_findExecutable?_iff`, by
which something is found exactly where something is declared, and `map_written_constructors`, by
which the compiled constructors tell those that were listed.
-/

namespace ProseGuard.Program

/-- The parameters that a constructor of the type is compiled with before those written. -/
def leadingParameters (t : TypeDecl) : List Parameter :=
  if t.isEnum then enumParameters else []

/-- A constructor of the type as it is compiled. -/
def compiled (t : TypeDecl) (c : Constructor) : Constructor :=
  { c with parameters := leadingParameters t ++ c.parameters }

/-- A compiled constructor of the type as it is written. -/
def written (t : TypeDecl) (c : Constructor) : Constructor :=
  { c with parameters := c.parameters.drop (hiddenParameters t) }

/-- The executable of a name and written parameter types is declared: a method of the lineage that
can be seen, or a constructor of the type as it is compiled. -/
inductive Declares (p : Program) (t : TypeDecl) (name : Text) (types : List Text) :
    Bool → Executable → Prop where
  | method (d : Declaration Method) : d ∈ p.declarations t (·.methods) →
      d.isVisible (·.isPublic) false → d.member.name = name →
      parameterTypes d.member.parameters = types → Declares p t name types false (.method d.member)
  | constructor (c : Constructor) : c ∈ t.constructors → parameterTypes c.parameters = types →
      Declares p t name types true (.constructor (compiled t c))

variable {p : Program} {t : TypeDecl} {name : Text} {types : List Text}

/-! ## Constructors -/

/-- As many parameters are hidden as stand before those written. -/
theorem length_leadingParameters (t : TypeDecl) :
    (leadingParameters t).length = hiddenParameters t := by
  unfold leadingParameters hiddenParameters
  split <;> rfl

/-- What is left of the parameters of a compiled constructor are those written. -/
theorem drop_compiled (t : TypeDecl) (c : Constructor) :
    (compiled t c).parameters.drop (hiddenParameters t) = c.parameters := by
  rw [compiled, ← length_leadingParameters, List.drop_left]

/-- The constructors of a type are those that it lists, compiled. -/
theorem constructors_eq (t : TypeDecl) : constructors t = t.constructors.map (compiled t) := by
  unfold constructors compiled leadingParameters
  split
  · rfl
  · exact (List.map_id _).symm

/-- Compiling leaves the constructors that a type lists as they were. -/
theorem map_written_constructors (t : TypeDecl) :
    (constructors t).map (written t) = t.constructors := by
  have hid : ∀ c, written t (compiled t c) = c := by
    intro c
    rw [written, drop_compiled]
    rfl
  rw [constructors_eq, List.map_map]
  exact (List.map_congr_left fun c _ => hid c).trans (List.map_id _)

/-- A constructor is found by the types of its written parameters. -/
theorem findConstructor?_eq :
    findConstructor? t types =
      (t.constructors.find? fun c => parameterTypes c.parameters = types).map (compiled t) := by
  rw [findConstructor?, constructors_eq, List.find?_map]
  congr 2
  funext c
  rw [Function.comp_apply, parameterTypes, ← List.map_drop, drop_compiled]
  rfl

/-! ## Methods -/

/-- The methods listed are declared where they can be seen. -/
theorem exists_declaration {m : Method} (h : m ∈ p.methods t false) :
    ∃ d ∈ p.declarations t (·.methods), d.isVisible (·.isPublic) false ∧ d.member = m := by
  have hseen := mem_of_mem_distinctBy h
  rw [visible_eq, List.mem_map] at hseen
  obtain ⟨d, hd, rfl⟩ := hseen
  obtain ⟨hdeclared, hvisible⟩ := List.mem_filter.1 hd
  exact ⟨d, hdeclared, hvisible, rfl⟩

/-- For a method that can be seen, one of its name and parameter types is listed. -/
theorem exists_listed {d : Declaration Method} (hd : d ∈ p.declarations t (·.methods))
    (hvisible : d.isVisible (·.isPublic) false) :
    ∃ m ∈ p.methods t false, m.name = d.member.name ∧
      parameterTypes m.parameters = parameterTypes d.member.parameters := by
  have hwins := nearestWins_distinctBy (·.methods) (·.isPublic) false p t
    fun m : Method => (m.name, parameterTypes m.parameters)
  obtain ⟨m, hm, hkey⟩ := List.mem_map.1 ((hwins.keys _).2 ⟨d, hd, hvisible, rfl⟩)
  exact ⟨m, hm, congrArg Prod.fst hkey, congrArg Prod.snd hkey⟩

/-! ## Looking up -/

/-- What is found is declared. -/
theorem declares_of_findExecutable? {isConstructor : Bool} {e : Executable}
    (h : p.findExecutable? t name types isConstructor = some e) :
    Declares p t name types isConstructor e := by
  cases isConstructor with
  | true =>
      obtain ⟨compiledOne, hfound, rfl⟩ := Option.map_eq_some_iff.1 h
      rw [findConstructor?_eq] at hfound
      obtain ⟨c, hc, rfl⟩ := Option.map_eq_some_iff.1 hfound
      exact .constructor c (List.mem_of_find?_eq_some hc) (by simpa using List.find?_some hc)
  | false =>
      obtain ⟨m, hm, rfl⟩ := Option.map_eq_some_iff.1 h
      obtain ⟨hlisted, hname, htypes⟩ := of_findMethod? hm
      obtain ⟨d, hd, hvisible, rfl⟩ := exists_declaration hlisted
      exact .method d hd hvisible hname htypes

/-- Something is found exactly where something is declared. -/
theorem exists_findExecutable?_iff {isConstructor : Bool} :
    (∃ e, p.findExecutable? t name types isConstructor = some e) ↔
      ∃ e, Declares p t name types isConstructor e := by
  constructor
  · rintro ⟨e, h⟩
    exact ⟨e, declares_of_findExecutable? h⟩
  · rintro ⟨_, ⟨d, hd, hvisible, hname, htypes⟩ | ⟨c, hc, htypes⟩⟩
    · obtain ⟨m, hm, hmname, hmtypes⟩ := exists_listed hd hvisible
      refine ⟨.method m, Option.map_eq_some_iff.2 ⟨m, ?_, rfl⟩⟩
      exact (p.findMethod?_eq_some_iff t name types m).2
        ⟨hm, hmname.trans hname, hmtypes.trans htypes⟩
    · have hsome : (t.constructors.find? fun c => parameterTypes c.parameters = types).isSome :=
        List.find?_isSome.2 ⟨c, hc, decide_eq_true htypes⟩
      obtain ⟨first, hfirst⟩ := Option.isSome_iff_exists.1 hsome
      refine ⟨.constructor (compiled t first), Option.map_eq_some_iff.2 ⟨_, ?_, rfl⟩⟩
      rw [findConstructor?_eq, hfirst, Option.map_some]

end ProseGuard.Program
