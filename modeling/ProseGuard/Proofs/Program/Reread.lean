import ProseGuard.Program.Description
import ProseGuard.Proofs.Program.Adding
import ProseGuard.Proofs.Reported

/-!
# Reading a program again

What a description is read as, in terms of the types that stand in it: each is checked and filled in
by itself (`ofJson_eq_ok_iff`), and then they are added in turn. A program that was read and is
written reads back as itself. Main statement: `reread_of_ofJson`.
-/

namespace ProseGuard.Program

variable {data : Json} {p : Program}

/-- Types are read exactly where all their values are valid. -/
theorem mapM_typeOfJson_eq_ok_iff {values : List Json} {ts : List TypeDecl} :
    values.mapM typeOfJson = .ok ts ↔ values.map TypeDecl.ofJson = ts.map .valid :=
  mapM_orElse_eq_ok_iff

/-- A description is read exactly where all values in its list of types are valid: as the program of
the types that they are, added in turn. -/
theorem ofJson_eq_ok_iff :
    ofJson data = .ok p ↔ ∃ values ts, data.listUnder "types" = .ok values ∧
      values.map TypeDecl.ofJson = ts.map .valid ∧ p = ofTypes ts := by
  unfold ofJson
  cases data.listUnder "types" with
  | error e => simp [bind, Except.bind]
  | ok values =>
      simp only [← mapM_typeOfJson_eq_ok_iff, Except.ok.injEq, exists_and_left, exists_eq_left']
      cases hread : values.mapM typeOfJson with
      | error e => simp [hread, bind, Except.bind]
      | ok ts => simp [hread, bind, Except.bind, pure, Except.pure, eq_comm]

/-- What a description is read as has the names that stand in it, each where it stands first, and
for each name the type that stands last, with the declaring types of its members filled in. Once it
is written, each of its types reads back as itself, the declaring types as they are, and the whole
reads back as the same program. -/
theorem reread_of_ofJson (h : ofJson data = .ok p) :
    (∃ values ts, data.listUnder "types" = .ok values ∧
      values.map TypeDecl.ofJson = ts.map .valid ∧
      p.types.map (·.name) = distinctBy id (ts.map (·.name)) ∧
      ∀ name, p.find? name = (lastNamed name ts).map TypeDecl.claimed) ∧
    (∀ t ∈ p.types, p.find? t.name = some t ∧ TypeDecl.ofJson t.toJson = .valid t ∧
      t.claimed = t) ∧
    ofJson (.object [("types", .array (p.types.map TypeDecl.toJson))]) = .ok p := by
  refine ⟨?_, fun t ht => ⟨?_, TypeDecl.ofJson_toJson t, p.claimed t ht⟩, ofJson_toJson p⟩
  · obtain ⟨values, ts, hlist, hvalid, rfl⟩ := ofJson_eq_ok_iff.1 h
    refine ⟨values, ts, hlist, hvalid, names_foldl_add empty ts, fun name => ?_⟩
    rw [ofTypes, find?_foldl_add]
    cases lastNamed name ts <;> rfl
  · obtain ⟨u, hu⟩ : ∃ u, p.find? t.name = some u :=
      Option.isSome_iff_exists.1 (List.find?_isSome.2 ⟨t, ht, by simp⟩)
    rw [hu, List.inj_on_of_nodup_map p.names_nodup (mem_of_find? hu) ht (name_of_find? hu)]

/-! ## A description to read -/

/-- Two descriptions of one type, the first with flags as a word and a number, and between them a
type with an entry that no type has. -/
def lidDescription : Json :=
  .object [("types", .array [
    .object [("name", .string "Lid"), ("methods", .array [
      .object [("name", .string "isOpen"), ("static", .string "No"), ("public", .integer 1)]])],
    .object [("name", .string "Hinge"), ("colour", .string "grey")],
    .object [("name", .string "Lid"), ("fields", .array [
      .object [("name", .string "angle"), ("type", .string "int")]])]])]

/-- The types as they stand there. -/
def lidTypes : List TypeDecl := [
  { name := "Lid", methods := [{ name := "isOpen" }] },
  { name := "Hinge" },
  { name := "Lid", fields := [{ name := "angle", type := "int" }] }]

theorem ofJson_lidDescription : ofJson lidDescription = .ok (ofTypes lidTypes) :=
  ofJson_eq_ok_iff.2 ⟨_, lidTypes, rfl, rfl, rfl⟩

/-- The second description stands at the place of the first, its field declared by the type, and
this is what reads back. -/
theorem reread_lidDescription :
    ofJson lidDescription = .ok (ofTypes lidTypes) ∧
      (ofTypes lidTypes).types = [
        { name := "Lid", fields := [{ name := "angle", type := "int", declaringType := "Lid" }] },
        { name := "Hinge" }] ∧
      ofJson (.object [("types", .array ((ofTypes lidTypes).types.map TypeDecl.toJson))]) =
        .ok (ofTypes lidTypes) :=
  ⟨ofJson_lidDescription, by decide, (reread_of_ofJson ofJson_lidDescription).2.2⟩

end ProseGuard.Program
