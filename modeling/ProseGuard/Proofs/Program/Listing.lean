import ProseGuard.Proofs.FirstOccurrences
import ProseGuard.Proofs.Program.Reach

/-!
# The nearest declaration wins

What a type lists are the declarations of its lineage, each key as it is declared first where it can
be seen (`NearestWins`). A declaration is told by how far up its type stands (`declarations`), on
which it depends whether it can be seen; what can be seen of the type itself and of its supertypes
is one selection from all of them (`visible_eq`). Main statement: `nearest_declaration_wins`, which
also says that looking a method up finds what is listed.
-/

namespace ProseGuard.Program

variable {α β : Type}

/-- A member, with the place of the type that declares it in a lineage. -/
structure Declaration (α : Type) where
  member : α
  depth : Nat

/-- A declaration can be seen if it is public, or if the type itself declares it and not only what is
public is asked for. -/
def Declaration.isVisible (isPublic : α → Bool) (publicOnly : Bool) (d : Declaration α) : Bool :=
  isPublic d.member || (d.depth = 0 && !publicOnly)

/-- What the types of a lineage declare, type by type. -/
def declarations (p : Program) (t : TypeDecl) (members : TypeDecl → List α) :
    List (Declaration α) :=
  (p.lineage t).zipIdx.flatMap fun (u, depth) => (members u).map (⟨·, depth⟩)

/-- The members listed are, for each key of a declaration that can be seen, the first such
declaration, in the order of these. -/
structure NearestWins (p : Program) (t : TypeDecl) (publicOnly : Bool)
    (members : TypeDecl → List α) (isPublic : α → Bool) (key : α → β) (listed : List α) :
    Prop where
  firsts : ∃ kept : List (Declaration α),
    Firsts (fun d => key d.member) (·.isVisible isPublic publicOnly) (p.declarations t members)
      kept ∧ listed = kept.map (·.member)
  once : (listed.map key).Nodup
  keys : ∀ k, k ∈ listed.map key ↔
    ∃ d ∈ p.declarations t members, d.isVisible isPublic publicOnly ∧ key d.member = k

/-! ## What can be seen -/

section Visible

variable (members : TypeDecl → List α) (isPublic : α → Bool) (publicOnly : Bool)

/-- Of one type everything that is public can be seen, and everything else only of the first. -/
theorem filter_isVisible (u : TypeDecl) (depth : Nat) :
    (((members u).map (Declaration.mk · depth)).filter (·.isVisible isPublic publicOnly)).map
        (·.member) =
      (members u).filter fun m => isPublic m || (depth = 0 && !publicOnly) := by
  rw [List.filter_map, List.map_map]
  exact List.map_id _

/-- Of supertypes only what is public can be seen. -/
theorem filter_isVisible_supertypes (us : List TypeDecl) {depth : Nat} (hdepth : 0 < depth) :
    (((us.zipIdx depth).flatMap fun (u, depth) => (members u).map (Declaration.mk · depth)).filter
        (·.isVisible isPublic publicOnly)).map (·.member) =
      (us.flatMap members).filter isPublic := by
  induction us generalizing depth with
  | nil => rfl
  | cons u us ih =>
      have hpublic : (fun m => isPublic m || (decide (depth = 0) && !publicOnly)) = isPublic := by
        funext m
        rw [decide_eq_false (by omega), Bool.false_and, Bool.or_false]
      rw [List.zipIdx_cons, List.flatMap_cons, List.flatMap_cons, List.filter_append,
        List.filter_append, List.map_append, filter_isVisible, hpublic, ih (Nat.succ_pos depth)]

/-- What is seen of a type are the declarations of its lineage that can be seen. -/
theorem visible_eq (p : Program) (t : TypeDecl) :
    p.visible t publicOnly members isPublic =
      ((p.declarations t members).filter (·.isVisible isPublic publicOnly)).map (·.member) := by
  have hself : (fun m => isPublic m || !publicOnly) =
      fun m => isPublic m || (decide (0 = 0) && !publicOnly) := rfl
  rw [visible, declarations, lineage, List.tail_cons, List.zipIdx_cons, List.flatMap_cons,
    List.filter_append, List.map_append, filter_isVisible,
    filter_isVisible_supertypes members isPublic publicOnly _ (Nat.succ_pos 0), hself]

/-- The nearest of what is seen are the first declarations that can be seen. -/
theorem nearestWins_distinctBy [DecidableEq β] (p : Program) (t : TypeDecl) (key : α → β) :
    NearestWins p t publicOnly members isPublic key
      (distinctBy key (p.visible t publicOnly members isPublic)) where
  firsts := by
    rw [visible_eq, distinctBy_map]
    exact ⟨_, firsts_distinctBy _ _ _, rfl⟩
  once := map_distinctBy_nodup key _
  keys k := by
    rw [mem_map_distinctBy, visible_eq]
    simp only [List.map_map, List.mem_map, List.mem_filter, Function.comp_apply, and_assoc]

end Visible

/-! ## Looking up -/

variable (p : Program) (t : TypeDecl)

variable {p t} in
/-- A method that is found is listed and has the name and the parameter types. -/
theorem of_findMethod? {name : Text} {types : List Text} {m : Method}
    (h : p.findMethod? t name types = some m) :
    m ∈ p.methods t false ∧ m.name = name ∧ parameterTypes m.parameters = types := by
  rw [findMethod?] at h
  exact ⟨List.mem_of_find?_eq_some h, by simpa using List.find?_some h⟩

/-- No method is found if none of that name and those parameter types is listed. -/
theorem findMethod?_eq_none_iff (name : Text) (types : List Text) :
    p.findMethod? t name types = none ↔
      ¬∃ m ∈ p.methods t false, m.name = name ∧ parameterTypes m.parameters = types := by
  rw [findMethod?, List.find?_eq_none]
  simp only [decide_eq_true_eq, not_exists, not_and]

/-- The method found is the one listed of that name and those parameter types. -/
theorem findMethod?_eq_some_iff (name : Text) (types : List Text) (m : Method) :
    p.findMethod? t name types = some m ↔
      m ∈ p.methods t false ∧ m.name = name ∧ parameterTypes m.parameters = types := by
  refine ⟨of_findMethod?, fun ⟨hmem, hname, htypes⟩ => ?_⟩
  cases hfind : p.findMethod? t name types with
  | none => exact absurd ⟨m, hmem, hname, htypes⟩ ((p.findMethod?_eq_none_iff t name types).1 hfind)
  | some n =>
      -- no two methods that are listed share a name and parameter types
      obtain ⟨hlisted, hsame, hkinds⟩ := of_findMethod? hfind
      rw [method_unique hlisted hmem (hsame.trans hname.symm) (hkinds.trans htypes.symm)]

/-- A type lists, of the methods and fields of its lineage that can be seen, the first of each name and
parameter types or of each name, in their order, and a method that is looked up is the one listed
without regard to what is public, if there is one. -/
theorem nearest_declaration_wins (publicOnly : Bool) :
    NearestWins p t publicOnly (·.methods) (·.isPublic)
        (fun m : Method => (m.name, parameterTypes m.parameters)) (p.methods t publicOnly) ∧
      (∀ name types,
        (∀ m, p.findExecutable? t name types false = some (.method m) ↔
          m ∈ p.methods t false ∧ m.name = name ∧ parameterTypes m.parameters = types) ∧
        (p.findExecutable? t name types false = none ↔
          ¬∃ m ∈ p.methods t false, m.name = name ∧ parameterTypes m.parameters = types)) ∧
      NearestWins p t publicOnly (·.fields) (·.isPublic) (·.name) (p.fields t publicOnly) := by
  refine ⟨nearestWins_distinctBy _ _ publicOnly p t _, fun name types => ⟨fun m => ?_, ?_⟩,
    nearestWins_distinctBy _ _ publicOnly p t _⟩
  · rw [← findMethod?_eq_some_iff]
    simp [findExecutable?]
  · rw [← findMethod?_eq_none_iff]
    simp [findExecutable?]

/-- A method that is not public hides one of a supertype where it is seen itself. -/
example :
    let band : TypeDecl :=
      { name := "Band", methods := [{ name := "cut", returnType := "long" }] }
    let strip : TypeDecl :=
      { name := "Strip", supertypes := ["Band"],
        methods := [{ name := "cut", returnType := "short", isPublic := false }] }
    let tape : TypeDecl :=
      { name := "Tape", supertypes := ["Strip"],
        methods := [{ name := "cut", returnType := "int", isPublic := false }] }
    let p := Program.ofTypes [band, strip, tape]
    (p.methods tape false).map (·.returnType) = ["int"] ∧
      (p.methods tape true).map (·.returnType) = ["long"] := by
  cbv

end ProseGuard.Program
