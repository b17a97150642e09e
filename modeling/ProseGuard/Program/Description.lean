import ProseGuard.Comment.Member
import ProseGuard.Failure
import ProseGuard.Files
import ProseGuard.Program.Hierarchy

/-!
# Program descriptions

The types of a program and its documented members, as one JSON object describes them. Main
statement: `Program.ofJson_toJson`, by which a program that is written reads back as itself.

Specification 3, the program model in memory: `from_dict` is `Program.ofJson`, `from_json_file` is
`Program.load`.
-/

namespace ProseGuard

open Program (TypeDecl)
open Comment (Member)

/-- What going through a value yields: the items of an array, the characters of a string and the
keys of an object, each as a string. -/
def Json.iterate : Json → Except Failure (List Json)
  | .array items => .ok items
  | .string text => .ok (text.map fun c => .string [c])
  | .object members => .ok (members.map fun member => .string member.1)
  | _ => .error (.fault .notIterable)

/-- The list under a key of an object; an empty one if the key is not there. -/
def Json.listUnder (key : Text) : Json → Except Failure (List Json)
  | .object members =>
    match members.lookup key with
    | some value => value.iterate
    | none => .ok []
  | _ => .error (.fault .notObject)

namespace Program

/-- Reads a type, the first that is invalid being the problem. -/
def typeOfJson (value : Json) : Except Failure TypeDecl :=
  (TypeDecl.ofJson value).orElse fun issues => .problem (.program (.invalidTypes issues))

/-- The program that an object describes. -/
def ofJson (description : Json) : Except Failure Program := do
  let values ← description.listUnder "types"
  return ofTypes (← values.mapM typeOfJson)

/-- Writes the types of a program. -/
def toJson (p : Program) : Json :=
  .object [("types", .array (p.types.map TypeDecl.toJson))]

/-- Why a description was not read, as a problem that the given function puts into words, or as a
fault. -/
def readFailure (problem : ReadProblem → ProgramProblem) : Files.ReadError → Failure
  | .missing => .problem (.program (problem .missing))
  | .underFile => .problem (.program (problem .underFile))
  | .directory => .problem (.program (problem .directory))
  | .overlong => .problem (.program (problem .overlongPath))
  | .malformed => .problem (.program (problem .malformed))
  | .unwritable => .fault .unwritablePath
  | .embeddedNul => .fault .embeddedNul
  | .undecodable => .fault .undecodable
  | .tooManyDigits digits => .fault (.tooManyDigits digits)
  | .tooDeep => .fault .tooDeep

/-- The program that a file describes. -/
def load (files : Files) (path : Text) : Except Failure Program :=
  match files.readJson path with
  | .ok description => ofJson description
  | .error error => .error (readFailure (.unreadableTypes path) error)

/-- The documented members that a file describes. -/
def loadMembers (files : Files) (path : Text) : Except Failure (List Member) :=
  match files.readJson path with
  | .ok description => do
    let values ← description.listUnder "members"
    values.mapM fun value => (Member.ofJson value).orElse fun issues =>
      .problem (.program (.unreadableMembers path (.invalid issues)))
  | .error error => .error (readFailure (.unreadableMembers path) error)

theorem types_foldl_add {ts : List TypeDecl} {p : Program}
    (hnodup : ((p.types ++ ts).map (·.name)).Nodup) (hclaimed : ∀ t ∈ ts, t.claimed = t) :
    (ts.foldl add p).types = p.types ++ ts := by
  induction ts generalizing p with
  | nil => simp
  | cons t ts ih =>
    have hnew : t.name ∉ p.types.map (·.name) := by
      rw [List.map_append, List.nodup_append] at hnodup
      exact fun h => hnodup.2.2 _ h _ (by simp) rfl
    have htypes : (p.add t).types = p.types ++ [t] := by
      show replaceOrAppend t.claimed p.types = p.types ++ [t]
      rw [hclaimed t (by simp), replaceOrAppend_of_not_mem hnew]
    rw [List.foldl_cons, ih (by simpa [htypes] using hnodup)
      (fun u hu => hclaimed u (List.mem_cons_of_mem _ hu)), htypes]
    simp

/-- The types of a program, added to an empty one, make the program again. -/
theorem ofTypes_types (p : Program) : ofTypes p.types = p := by
  have htypes : (ofTypes p.types).types = p.types := by
    rw [ofTypes, types_foldl_add (by simpa [empty] using p.names_nodup) p.claimed]
    rfl
  cases p
  cases h : ofTypes _
  simp_all

/-- A program that is written reads back as itself. -/
theorem ofJson_toJson (p : Program) : ofJson p.toJson = .ok p := by
  have hread : ∀ ts : List TypeDecl, (ts.map TypeDecl.toJson).mapM typeOfJson = .ok ts := by
    intro ts
    induction ts with
    | nil => rfl
    | cons t ts ih => simp [List.mapM_cons, typeOfJson, Record.Checked.orElse, ih, bind,
        Except.bind, pure, Except.pure]
  simp [ofJson, toJson, Json.listUnder, Json.iterate, hread, bind, Except.bind,
    pure, Except.pure, ofTypes_types]

end Program

end ProseGuard
