import ProseGuard.Proofs.Program.Listing

/-!
# Members that are not public

A type lists either what is public or all that it can see. What is not public is left out before
repetitions are, so a member that is not public hides a supertype's member of its key in the one
list and is passed over in the other (`Hides`). Main statement: `public_part`, by which the public
members differ in nothing else from the public part of all members.
-/

namespace ProseGuard.Program

variable {α β : Type}

/-- The first member of its key that the type itself declares is not public, and a type of the
lineage declares a public one of the same key. -/
structure Hides (p : Program) (t : TypeDecl) (members : TypeDecl → List α) (isPublic : α → Bool)
    (key : α → β) (m n : α) : Prop where
  first : ∃ place, IsFirst key (fun _ => true) (members t) place m
  concealed : isPublic m = false
  declared : ∃ u ∈ p.lineage t, n ∈ members u
  shown : isPublic n
  same : key m = key n

/-- What is listed as public holds the public part of all that is listed, in its order, and else
only members that are hidden. -/
structure PublicPart (p : Program) (t : TypeDecl) (members : TypeDecl → List α)
    (isPublic : α → Bool) (key : α → β) (listed all : List α) : Prop where
  sublist : (all.filter isPublic).Sublist listed
  mem_all_iff : ∀ n ∈ listed, n ∈ all ↔ ∀ m, ¬ Hides p t members isPublic key m n
  eq_iff : listed = all.filter isPublic ↔ ∀ m n, ¬ Hides p t members isPublic key m n

variable {members : TypeDecl → List α} {isPublic : α → Bool} {key : α → β} {p : Program}
  {t : TypeDecl}

/-- What can be seen as public is the public part of all that can be seen. -/
theorem visible_public :
    p.visible t true members isPublic = (p.visible t false members isPublic).filter isPublic := by
  rw [visible, visible, List.filter_append, List.filter_filter, List.filter_filter]
  simp

/-- What is public can be seen wherever in the lineage it is declared. -/
theorem mem_visible_iff_of_public {n : α} (h : isPublic n) :
    n ∈ p.visible t false members isPublic ↔ ∃ u ∈ p.lineage t, n ∈ members u := by
  simp [visible, lineage, h]

variable [DecidableEq β]

/-- A member that is not public is the first of its key that can be seen exactly if it is the first
that the type itself declares. -/
theorem mem_distinctBy_visible_iff {m : α} (h : isPublic m = false) :
    m ∈ distinctBy key (p.visible t false members isPublic) ↔
      ∃ place, IsFirst key (fun _ => true) (members t) place m := by
  have hsupertypes : m ∉ ((p.lineage t).tail.flatMap members).filter isPublic := by
    intro hmem
    rw [(List.mem_filter.1 hmem).2] at h
    exact nomatch h
  have hself : (members t).filter (fun m => isPublic m || !false) = members t := by
    simp
  rw [mem_distinctBy_iff, visible, hself]
  exact exists_congr fun place => isFirst_append_iff hsupertypes

/-- Among what can be seen, a first member that is not public has the key of one that is exactly if
it hides it. -/
theorem hides_iff {m n : α} :
    Hides p t members isPublic key m n ↔
      m ∈ distinctBy key (p.visible t false members isPublic) ∧ isPublic m = false ∧
        n ∈ p.visible t false members isPublic ∧ isPublic n ∧ key m = key n := by
  constructor
  · rintro ⟨hfirst, hconcealed, hdeclared, hshown, hsame⟩
    exact ⟨(mem_distinctBy_visible_iff hconcealed).2 hfirst, hconcealed,
      (mem_visible_iff_of_public hshown).2 hdeclared, hshown, hsame⟩
  · rintro ⟨hfirst, hconcealed, hdeclared, hshown, hsame⟩
    exact ⟨(mem_distinctBy_visible_iff hconcealed).1 hfirst, hconcealed,
      (mem_visible_iff_of_public hshown).1 hdeclared, hshown, hsame⟩

/-- What is listed as public compares so with all that is listed. -/
theorem publicPart_distinctBy (p : Program) (t : TypeDecl) (members : TypeDecl → List α)
    (isPublic : α → Bool) (key : α → β) :
    PublicPart p t members isPublic key (distinctBy key (p.visible t true members isPublic))
      (distinctBy key (p.visible t false members isPublic)) := by
  rw [visible_public]
  refine ⟨filter_distinctBy_sublist isPublic _, fun n hn => ?_, ?_⟩
  · obtain ⟨hseen, hshown⟩ := List.mem_filter.1 (mem_of_mem_distinctBy hn)
    rw [mem_distinctBy_iff_of_filter hn]
    constructor
    · intro hpublic m hm
      obtain ⟨hfirst, hconcealed, -, -, hsame⟩ := hides_iff.1 hm
      rw [hpublic m hfirst hsame] at hconcealed
      exact nomatch hconcealed
    · intro hnone m hfirst hsame
      by_contra hconcealed
      exact hnone m
        (hides_iff.2 ⟨hfirst, Bool.eq_false_iff.2 hconcealed, hseen, hshown, hsame⟩)
  · rw [distinctBy_filter_eq_iff]
    constructor
    · intro hpublic m n hm
      obtain ⟨hfirst, hconcealed, hseen, hshown, hsame⟩ := hides_iff.1 hm
      rw [hpublic m hfirst n hseen hshown hsame] at hconcealed
      exact nomatch hconcealed
    · intro hnone m hfirst n hseen hshown hsame
      by_contra hconcealed
      exact hnone m n
        (hides_iff.2 ⟨hfirst, Bool.eq_false_iff.2 hconcealed, hseen, hshown, hsame⟩)

/-- The public methods and fields of a type are the public ones of all its methods and fields, and
those that a member of the type hides which is not public itself; there are none of these exactly if
nothing is hidden so. -/
theorem public_part (p : Program) (t : TypeDecl) :
    PublicPart p t (·.methods) (·.isPublic)
        (fun m : Method => (m.name, parameterTypes m.parameters)) (p.methods t true)
        (p.methods t false) ∧
      PublicPart p t (·.fields) (·.isPublic) (·.name) (p.fields t true) (p.fields t false) :=
  ⟨publicPart_distinctBy p t _ _ _, publicPart_distinctBy p t _ _ _⟩

/-! ## Hidden members that are listed -/

/-- The supertype, all of whose members are public. -/
def caskType : TypeDecl where
  name := "Cask"
  methods := [{ name := "drain", returnType := "boolean", declaringType := "Cask" }]
  fields := [{ name := "sealed", type := "boolean", declaringType := "Cask" }]

/-- The type, none of whose members is. -/
def barrelType : TypeDecl where
  name := "Barrel"
  supertypes := ["Cask"]
  methods :=
    [{ name := "drain", returnType := "boolean", isPublic := false, declaringType := "Barrel" }]
  fields := [{ name := "sealed", type := "boolean", isPublic := false, declaringType := "Barrel" }]

/-- The program of the two. -/
def barrelProgram : Program :=
  .ofTypes [caskType, barrelType]

theorem lineage_barrelType : barrelProgram.lineage barrelType = [barrelType, caskType] := by
  have hcask : barrelProgram.find? "Cask" = some caskType := by decide
  have hwalk : barrelProgram.walk ["Barrel"] ["Cask"] = [caskType] := by
    rw [walk_of_known _ (by decide) hcask]
    show caskType :: barrelProgram.walk ["Cask", "Barrel"] [] = [caskType]
    rw [walk]
  exact congrArg (barrelType :: ·) hwalk

/-- The members of a barrel hide those of a cask, and these are listed as public all the same. -/
theorem hidden_listed_barrelType :
    barrelProgram.find? "Barrel" = some barrelType ∧
      (barrelProgram.methods barrelType false = barrelType.methods ∧
        barrelProgram.methods barrelType true = caskType.methods ∧
        barrelProgram.methods barrelType true ≠
          (barrelProgram.methods barrelType false).filter (·.isPublic)) ∧
      barrelProgram.fields barrelType false = barrelType.fields ∧
        barrelProgram.fields barrelType true = caskType.fields ∧
        barrelProgram.fields barrelType true ≠
          (barrelProgram.fields barrelType false).filter (·.isPublic) := by
  have hmethods : barrelProgram.methods barrelType false = barrelType.methods ∧
      barrelProgram.methods barrelType true = caskType.methods := by
    rw [methods, methods, visible, visible, lineage_barrelType]
    decide
  have hfields : barrelProgram.fields barrelType false = barrelType.fields ∧
      barrelProgram.fields barrelType true = caskType.fields := by
    rw [fields, fields, visible, visible, lineage_barrelType]
    decide
  refine ⟨by decide, ⟨hmethods.1, hmethods.2, ?_⟩, hfields.1, hfields.2, ?_⟩
  · rw [hmethods.1, hmethods.2]
    exact List.cons_ne_nil _ _
  · rw [hfields.1, hfields.2]
    exact List.cons_ne_nil _ _

end ProseGuard.Program
