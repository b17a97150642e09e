import ProseGuard.Program.Description
import ProseGuard.Proofs.Reported

/-!
# Program descriptions that are reported

Which descriptions of a program are read or reported as wrong, and which end the run. A type or a
member may be anything: a wrong one is reported. A description that is no object is not reported,
nor is one whose list of types or members cannot be gone through, nor a file whose bytes write no
value in certain ways. Main statements: `reported_ofJson_iff`, `reported_load_iff` and
`reported_loadMembers_iff`.
-/

namespace ProseGuard

/-- A list, a text or an object: what can be gone through. -/
def Json.isIterable : Json → Bool
  | .array _ | .string _ | .object _ => true
  | _ => false

/-- An object that has nothing under the key, or a value that can be gone through. -/
def Json.HasListUnder (key : Text) : Json → Prop
  | .object members => ∀ value, members.lookup key = some value → value.isIterable
  | _ => False

namespace Program

/-- Why a file yields no value, as far as it is reported of a program description. -/
def reports : Files.ReadError → Bool
  | .missing | .underFile | .directory | .overlong | .malformed => true
  | .unwritable | .embeddedNul | .undecodable | .tooManyDigits _ | .tooDeep => false

/-- What a path leads to either writes a description whose list under the key can be gone through,
or yields no value for a reason that is reported. -/
def Describes (files : Files) (path key : Text) : Prop :=
  match files.readJson path with
  | .ok description => description.HasListUnder key
  | .error error => reports error

variable {κ : Type} {sort : κ → Problem} {files : Files} {path : Text}

/-- Going through a value ends the run exactly if that cannot be done. -/
theorem reported_iterate_iff {value : Json} :
    Reported sort value.iterate ↔ value.isIterable := by
  cases value with
  | array _ | string _ | object _ => exact iff_of_true (.value _) rfl
  | null | bool _ | integer _ | number _ =>
      exact iff_of_false (not_reported_fault _) Bool.false_ne_true

/-- So does taking the list under a key, exactly if the description has none. -/
theorem reported_listUnder_iff {key : Text} {description : Json} :
    Reported sort (description.listUnder key) ↔ description.HasListUnder key := by
  cases description with
  | object members =>
      simp only [Json.listUnder, Json.HasListUnder]
      cases hvalue : members.lookup key with
      | none =>
          refine iff_of_true (.value _) ?_
          rintro value ⟨⟩
      | some value =>
          rw [reported_iterate_iff]
          exact ⟨fun h other hother => Option.some.inj hother ▸ h, fun h => h value rfl⟩
  | null | bool _ | integer _ | number _ | string _ | array _ =>
      exact iff_of_false (not_reported_fault _) id

/-- What keeps a file from being read is reported exactly if it is one of the reasons for that. -/
theorem reported_readFailure_iff {α : Type} {problem : ReadProblem → ProgramProblem}
    (hsort : ∀ problem, ∃ wrong, sort wrong = .program problem) (error : Files.ReadError) :
    Reported sort (.error (readFailure problem error) : Except Failure α) ↔ reports error := by
  have htold : ∀ cause : ReadProblem, Reported sort
      (.error (.problem (.program (problem cause))) : Except Failure α) := by
    intro cause
    obtain ⟨wrong, hwrong⟩ := hsort (problem cause)
    exact .of_sort hwrong
  cases error with
  | missing | underFile | directory | overlong | malformed => exact iff_of_true (htold _) rfl
  | unwritable | embeddedNul | undecodable | tooManyDigits _ | tooDeep =>
      exact iff_of_false (not_reported_fault _) Bool.false_ne_true

variable (hsort : ∀ problem, ∃ wrong, sort wrong = .program problem)
include hsort

/-- A description is read or reported exactly if its types can be gone through. -/
theorem reported_ofJson_iff {description : Json} :
    Reported sort (ofJson description) ↔ description.HasListUnder "types" := by
  unfold ofJson
  rw [reported_bind_iff, reported_listUnder_iff]
  refine and_iff_left fun values _ =>
    reported_bind_iff.2 ⟨.mapM fun value _ => ?_, fun ts _ => .value _⟩
  exact reported_orElse _ fun issues => hsort (.invalidTypes issues)

/-- A file is read as a program or reported exactly if it describes types. -/
theorem reported_load_iff : Reported sort (load files path) ↔ Describes files path "types" := by
  unfold load Describes
  cases files.readJson path with
  | ok description => exact reported_ofJson_iff hsort
  | error error => exact reported_readFailure_iff hsort error

/-- A file is read as a list of members or reported exactly if it describes members. -/
theorem reported_loadMembers_iff :
    Reported sort (loadMembers files path) ↔ Describes files path "members" := by
  unfold loadMembers Describes
  cases files.readJson path with
  | ok description =>
      show Reported sort (description.listUnder "members" >>= _) ↔ _
      rw [reported_bind_iff, reported_listUnder_iff]
      refine and_iff_left fun values _ => .mapM fun value _ => ?_
      exact reported_orElse _ fun issues => hsort (.unreadableMembers path (.invalid issues))
  | error error => exact reported_readFailure_iff hsort error

end Program

end ProseGuard
