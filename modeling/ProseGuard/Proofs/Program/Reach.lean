import Mathlib.Data.List.Nodup
import ProseGuard.Program.Hierarchy

/-!
# What a type has through its supertypes

The walk over supertypes meets known types only (`mem_types_of_mem_walk`), so what a known type has is
declared by a known type (`exists_of_mem_methods`, `exists_of_mem_fields`). It looks up only names
that it is led to: programs that know the same types under the names of a closed set list the same
members (`methods_eq_of_agreeOn`, `fields_eq_of_agreeOn`).
-/

namespace ProseGuard.Program

variable {p q : Program} {t : TypeDecl}

/-! ## Steps of a walk -/

/-- A name that was seen is passed over. -/
theorem walk_of_seen (p : Program) {seen queue : List Text} {name : Text}
    (hseen : seen.contains name) : p.walk seen (name :: queue) = p.walk seen queue := by
  rw [walk, if_pos hseen]

/-- So is a name of no known type. -/
theorem walk_of_unknown (p : Program) {seen queue : List Text} {name : Text}
    (hfind : p.find? name = none) : p.walk seen (name :: queue) = p.walk seen queue := by
  generalize hall : name :: queue = all
  fun_cases walk p seen all with
  | case1 => exact nomatch hall
  | case2 other rest hseen =>
      cases hall
      rfl
  | case3 other rest hseen hunknown =>
      cases hall
      rfl
  | case4 other rest hseen u hknown =>
      cases hall
      exact nomatch hfind.symm.trans hknown

/-- A type that was not seen is met, and its supertypes are looked up behind the rest. -/
theorem walk_of_known (p : Program) {seen queue : List Text} {name : Text} {u : TypeDecl}
    (hseen : seen.contains name = false) (hfind : p.find? name = some u) :
    p.walk seen (name :: queue) = u :: p.walk (name :: seen) (queue ++ u.supertypes) := by
  generalize hall : name :: queue = all
  fun_cases walk p seen all with
  | case1 => exact nomatch hall
  | case2 other rest hcontains =>
      cases hall
      exact absurd hcontains (Bool.eq_false_iff.1 hseen)
  | case3 other rest hcontains hunknown =>
      cases hall
      exact nomatch hfind.symm.trans hunknown
  | case4 other rest hcontains v hknown =>
      cases hall
      rw [Option.some.inj (hfind.symm.trans hknown)]

/-! ## Declared members -/

/-- A walk meets known types only. -/
theorem mem_types_of_mem_walk {seen queue : List Text} {u : TypeDecl}
    (h : u ∈ p.walk seen queue) : u ∈ p.types := by
  fun_induction walk p seen queue with
  | case1 seen => exact absurd h List.not_mem_nil
  | case2 seen name queue hseen ih => exact ih h
  | case3 seen name queue hseen hfind ih => exact ih h
  | case4 seen name queue hseen u' hfind ih =>
      rcases List.mem_cons.1 h with rfl | h
      · exact mem_of_find? hfind
      · exact ih h

/-- What is seen of a known type is declared by a known type. -/
theorem exists_of_mem_visible {α : Type} {publicOnly : Bool} {members : TypeDecl → List α}
    {isPublic : α → Bool} (ht : t ∈ p.types) {m : α}
    (h : m ∈ p.visible t publicOnly members isPublic) : ∃ u ∈ p.types, m ∈ members u := by
  rcases List.mem_append.1 h with h | h
  · exact ⟨t, ht, (List.mem_filter.1 h).1⟩
  · obtain ⟨u, hu, hm⟩ := List.mem_flatMap.1 (List.mem_filter.1 h).1
    exact ⟨u, mem_types_of_mem_walk hu, hm⟩

/-- The methods of a known type are declared by known types. -/
theorem exists_of_mem_methods {publicOnly : Bool} (ht : t ∈ p.types) {m : Method}
    (h : m ∈ p.methods t publicOnly) : ∃ u ∈ p.types, m ∈ u.methods :=
  exists_of_mem_visible ht (mem_of_mem_distinctBy h)

/-- The fields of a known type are declared by known types. -/
theorem exists_of_mem_fields {publicOnly : Bool} (ht : t ∈ p.types) {f : Field}
    (h : f ∈ p.fields t publicOnly) : ∃ u ∈ p.types, f ∈ u.fields :=
  exists_of_mem_visible ht (mem_of_mem_distinctBy h)

/-- Methods that are listed, of one name and of the same parameter types, are the same. -/
theorem method_unique {publicOnly : Bool} {m n : Method} (hm : m ∈ p.methods t publicOnly)
    (hn : n ∈ p.methods t publicOnly) (hname : m.name = n.name)
    (htypes : parameterTypes m.parameters = parameterTypes n.parameters) : m = n :=
  List.inj_on_of_nodup_map (map_distinctBy_nodup _ _) hm hn (Prod.ext hname htypes)

/-- Fields that are listed, of one name, are the same. -/
theorem field_unique {publicOnly : Bool} {f g : Field} (hf : f ∈ p.fields t publicOnly)
    (hg : g ∈ p.fields t publicOnly) (hname : f.name = g.name) : f = g :=
  List.inj_on_of_nodup_map (map_distinctBy_nodup _ _) hf hg hname

/-! ## Names that are looked up -/

/-- The set holds, with the name of a known type, the names of its supertypes. -/
def IsClosed (p : Program) (names : Text → Prop) : Prop :=
  ∀ name t, names name → p.find? name = some t → ∀ s ∈ t.supertypes, names s

/-- Two programs know the same types under the names of the set. -/
def AgreeOn (p q : Program) (names : Text → Prop) : Prop :=
  ∀ name, names name → p.find? name = q.find? name

section Agree

variable {names : Text → Prop} (hclosed : p.IsClosed names) (hagree : p.AgreeOn q names)

include hclosed hagree

/-- A walk from names of a closed set looks up no others. -/
theorem walk_eq_of_agreeOn {seen queue : List Text} (hqueue : ∀ name ∈ queue, names name) :
    p.walk seen queue = q.walk seen queue := by
  -- the names in the queue stay within the set, because supertypes do
  fun_induction walk p seen queue with
  | case1 seen => rw [walk]
  | case2 seen name queue hseen ih =>
      rw [walk_of_seen q hseen]
      exact ih fun other hother => hqueue other (List.mem_cons_of_mem _ hother)
  | case3 seen name queue hseen hfind ih =>
      rw [hagree name (hqueue name List.mem_cons_self)] at hfind
      rw [walk_of_unknown q hfind]
      exact ih fun other hother => hqueue other (List.mem_cons_of_mem _ hother)
  | case4 seen name queue hseen u hfind ih =>
      have hname := hqueue name List.mem_cons_self
      have hsupertypes := hclosed name u hname hfind
      rw [hagree name hname] at hfind
      rw [walk_of_known q (Bool.eq_false_iff.2 hseen) hfind, ih]
      intro other hother
      rcases List.mem_append.1 hother with hother | hother
      · exact hqueue other (List.mem_cons_of_mem _ hother)
      · exact hsupertypes other hother

/-- What is seen of a type whose name stands in a closed set depends on the types under the names of
the set alone. -/
theorem visible_eq_of_agreeOn {α : Type} {name : Text} (hname : names name)
    (hfind : p.find? name = some t) (publicOnly : Bool) (members : TypeDecl → List α)
    (isPublic : α → Bool) :
    p.visible t publicOnly members isPublic = q.visible t publicOnly members isPublic := by
  rw [visible, visible, lineage, lineage,
    walk_eq_of_agreeOn hclosed hagree (hclosed name t hname hfind)]

/-- So do the methods of the type. -/
theorem methods_eq_of_agreeOn {name : Text} (hname : names name) (hfind : p.find? name = some t)
    (publicOnly : Bool) : p.methods t publicOnly = q.methods t publicOnly := by
  rw [methods, methods, visible_eq_of_agreeOn hclosed hagree hname hfind]

/-- So do its fields. -/
theorem fields_eq_of_agreeOn {name : Text} (hname : names name) (hfind : p.find? name = some t)
    (publicOnly : Bool) : p.fields t publicOnly = q.fields t publicOnly := by
  rw [fields, fields, visible_eq_of_agreeOn hclosed hagree hname hfind]

end Agree

end ProseGuard.Program
