import ProseGuard.Distinct
import ProseGuard.Program.Basic

/-!
# Programs

The types that are known of a program, in the order in which they were added, and what a type
has through its supertypes. Main statements: `find?_add`, which says what adding a type changes,
and `name_of_find?`; the walk over supertypes ends because every step either meets a type for the
first time or shortens the queue. A type that names no supertypes has what it declares and nothing
else (`methods_of_no_supertypes`, `fields_of_no_supertypes`).

Specification 3, the program model: `resolve_type` is `find?`, `list_methods` is `methods`,
`list_fields` is `fields`, `list_constructors` is `constructors`, and the documented executable is
`findExecutable?`.
-/

namespace ProseGuard

open Program

/-- The known types of a program, one of each name, their members claimed. -/
structure Program where
  types : List TypeDecl
  names_nodup : (types.map (·.name)).Nodup
  claimed : ∀ t ∈ types, t.claimed = t

namespace Program

/-- The program of which no type is known. -/
def empty : Program := ⟨[], by simp, by simp⟩

/-- The type of a name. -/
def find? (p : Program) (name : Text) : Option TypeDecl :=
  p.types.find? fun t => t.name = name

/-- Replaces the type of the same name, or adds the type at the end. -/
def replaceOrAppend (t : TypeDecl) : List TypeDecl → List TypeDecl
  | [] => [t]
  | u :: us => if u.name = t.name then t :: us else u :: replaceOrAppend t us

theorem mem_replaceOrAppend {t u : TypeDecl} {us : List TypeDecl}
    (h : u ∈ replaceOrAppend t us) : u = t ∨ u ∈ us := by
  induction us with
  | nil => simpa [replaceOrAppend] using h
  | cons v vs ih =>
    simp only [replaceOrAppend] at h
    split at h <;> simp only [List.mem_cons] at h ⊢ <;> rcases h with h | h
    · exact .inl h
    · exact .inr (.inr h)
    · exact .inr (.inl h)
    · exact (ih h).imp_right .inr

/-- A type of a new name is put at the end. -/
theorem replaceOrAppend_of_not_mem {t : TypeDecl} {us : List TypeDecl}
    (h : t.name ∉ us.map (·.name)) : replaceOrAppend t us = us ++ [t] := by
  induction us with
  | nil => rfl
  | cons u us ih =>
    simp only [List.map_cons, List.mem_cons, not_or] at h
    simp [replaceOrAppend, Ne.symm h.1, ih h.2]

theorem nodup_replaceOrAppend {t : TypeDecl} {us : List TypeDecl}
    (h : (us.map (·.name)).Nodup) : ((replaceOrAppend t us).map (·.name)).Nodup := by
  induction us with
  | nil => simp [replaceOrAppend]
  | cons v vs ih =>
    simp only [List.map_cons, List.nodup_cons] at h
    simp only [replaceOrAppend]
    split
    · next heq => simpa [← heq] using h
    · next hne =>
      simp only [List.map_cons, List.nodup_cons, List.mem_map]
      refine ⟨?_, ih h.2⟩
      rintro ⟨u, hu, hname⟩
      rcases mem_replaceOrAppend hu with rfl | hu
      · exact hne hname.symm
      · exact h.1 (List.mem_map.2 ⟨u, hu, hname⟩)

/-- Adds a type, its members claimed; a type of the same name is replaced and keeps its place. -/
def add (p : Program) (t : TypeDecl) : Program where
  types := replaceOrAppend t.claimed p.types
  names_nodup := nodup_replaceOrAppend p.names_nodup
  claimed := fun u hu => by
    rcases mem_replaceOrAppend hu with rfl | hu
    · exact t.claimed_claimed
    · exact p.claimed u hu

/-- The program of the given types, added one after the other. -/
def ofTypes (types : List TypeDecl) : Program :=
  types.foldl add empty

theorem find?_replaceOrAppend (t : TypeDecl) (us : List TypeDecl) (name : Text) :
    (replaceOrAppend t us).find? (fun u => u.name = name) =
      if t.name = name then some t else us.find? fun u => u.name = name := by
  induction us with
  | nil => by_cases h : t.name = name <;> simp [replaceOrAppend, h]
  | cons v vs ih =>
    simp only [replaceOrAppend]
    split
    · next heq => by_cases h : t.name = name <;> simp [h, heq]
    · next hne =>
      by_cases hv : v.name = name
      · have : t.name ≠ name := fun h => hne (hv.trans h.symm)
        simp [hv, this]
      · simp [hv, ih]

/-- After adding a type its name stands for it, and every other name for what it did. -/
theorem find?_add (p : Program) (t : TypeDecl) (name : Text) :
    (p.add t).find? name = if t.name = name then some t.claimed else p.find? name :=
  find?_replaceOrAppend t.claimed p.types name

/-- A type that is found has the name that it was looked up by. -/
theorem name_of_find? {p : Program} {name : Text} {t : TypeDecl} (h : p.find? name = some t) :
    t.name = name := by
  simpa using List.find?_some h

theorem mem_of_find? {p : Program} {name : Text} {t : TypeDecl} (h : p.find? name = some t) :
    t ∈ p.types :=
  List.mem_of_find?_eq_some h

/-- The known types whose names are not among those seen. -/
def unseen (p : Program) (seen : List Text) : List TypeDecl :=
  p.types.filter fun t => !seen.contains t.name

theorem unseen_length_lt {p : Program} {seen : List Text} {name : Text} {t : TypeDecl}
    (hfind : p.find? name = some t) (hnew : seen.contains name = false) :
    (p.unseen (name :: seen)).length < (p.unseen seen).length := by
  have hname := name_of_find? hfind
  have hsub : p.unseen (name :: seen) =
      (p.unseen seen).filter fun u => !(u.name == name) := by
    simp only [unseen, List.filter_filter]
    congr 1
    funext u
    rw [List.contains_cons, Bool.not_or, Bool.and_comm, Bool.and_comm]
  rw [hsub]
  refine List.length_filter_lt_length_iff_exists.2 ⟨t, ?_, by simp [hname]⟩
  simp only [unseen, List.mem_filter]
  exact ⟨mem_of_find? hfind, by rw [hname, hnew]; rfl⟩

/-- The known types that a queue of names leads to, nearest first, without those seen. -/
def walk (p : Program) (seen : List Text) : List Text → List TypeDecl
  | [] => []
  | name :: queue =>
    if seen.contains name then p.walk seen queue
    else match _hfind : p.find? name with
      | none => p.walk seen queue
      | some t => t :: p.walk (name :: seen) (queue ++ t.supertypes)
termination_by queue => ((p.unseen seen).length, queue.length)
decreasing_by
  · exact Prod.Lex.right _ (by simp)
  · exact Prod.Lex.right _ (by simp)
  · exact Prod.Lex.left _ _ (unseen_length_lt ‹_› (Bool.eq_false_iff.2 ‹_›))

/-- The type followed by its known supertypes, nearest first, each once. -/
def lineage (p : Program) (t : TypeDecl) : List TypeDecl :=
  t :: p.walk [t.name] t.supertypes

/-- What can be seen of a list of members of each type: all that `own` allows of the type itself
and what is public of its supertypes, in order of the lineage. -/
def visible {α : Type} (p : Program) (t : TypeDecl) (publicOnly : Bool)
    (members : TypeDecl → List α) (isPublic : α → Bool) : List α :=
  (members t).filter (fun m => isPublic m || !publicOnly) ++
    ((p.lineage t).tail.flatMap members).filter isPublic

/-- The methods of a type: those seen, the nearest of each name and parameter types. -/
def methods (p : Program) (t : TypeDecl) (publicOnly : Bool) : List Method :=
  distinctBy (fun m => (m.name, parameterTypes m.parameters))
    (p.visible t publicOnly (·.methods) (·.isPublic))

/-- The fields of a type: those seen, the nearest of each name. -/
def fields (p : Program) (t : TypeDecl) (publicOnly : Bool) : List Field :=
  distinctBy (·.name) (p.visible t publicOnly (·.fields) (·.isPublic))

/-- The parameters that every constructor of an enumeration has before those written. -/
def enumParameters : List Parameter :=
  [⟨"$enum$name", "java.lang.String"⟩, ⟨"$enum$ordinal", "int"⟩]

/-- The constructors of a type, with the parameters that they are compiled with. -/
def constructors (t : TypeDecl) : List Constructor :=
  if t.isEnum then
    t.constructors.map fun c => { c with parameters := enumParameters ++ c.parameters }
  else t.constructors

/-- The number of parameters that a constructor of the type has before those written. -/
def hiddenParameters (t : TypeDecl) : Nat :=
  if t.isEnum then enumParameters.length else 0

/-- The constructor with the given written parameter types. -/
def findConstructor? (t : TypeDecl) (types : List Text) : Option Constructor :=
  (constructors t).find? fun c =>
    (parameterTypes c.parameters).drop (hiddenParameters t) = types

/-- The method of the given name and parameter types. -/
def findMethod? (p : Program) (t : TypeDecl) (name : Text) (types : List Text) :
    Option Method :=
  (p.methods t false).find? fun m => m.name = name ∧ parameterTypes m.parameters = types

/-- The constructor or method of the given name and written parameter types. -/
def findExecutable? (p : Program) (t : TypeDecl) (name : Text) (types : List Text)
    (isConstructor : Bool) : Option Executable :=
  if isConstructor then (findConstructor? t types).map .constructor
  else (p.findMethod? t name types).map .method

variable (p : Program) {t : TypeDecl}

/-- A type without supertypes is its whole lineage. -/
theorem lineage_of_no_supertypes (h : t.supertypes = []) : p.lineage t = [t] := by
  rw [lineage, h, walk]

/-- A type without supertypes has the methods that it declares. -/
theorem methods_of_no_supertypes (h : t.supertypes = []) (publicOnly : Bool) :
    p.methods t publicOnly = distinctBy (fun m => (m.name, parameterTypes m.parameters))
      (t.methods.filter fun m => m.isPublic || !publicOnly) := by
  rw [methods, visible, p.lineage_of_no_supertypes h]
  simp

/-- A type without supertypes has the fields that it declares. -/
theorem fields_of_no_supertypes (h : t.supertypes = []) (publicOnly : Bool) :
    p.fields t publicOnly =
      distinctBy (·.name) (t.fields.filter fun f => f.isPublic || !publicOnly) := by
  rw [fields, visible, p.lineage_of_no_supertypes h]
  simp

end Program

end ProseGuard
