import ProseGuard.Json.Reader
import ProseGuard.Path

/-!
# Files

The files that a command can read, as a view of a directory: what a path leads to. A file is read
as JSON in UTF-8. Main statement: `readAt_eq_ok_iff`, by which a file is read exactly when its
bytes are the text of a value.
-/

namespace ProseGuard

/-- What a path leads to. -/
inductive Entry where
  | missing
  /-- The path goes on below a file. -/
  | underFile
  | directory
  /-- The path, or a part that is looked up, is longer than a name can be. -/
  | overlong
  | file (content : ByteArray)

/-- What every path leads to. -/
abbrev Files := Path → Entry

namespace Files

/-- How many bytes a part of a path may have. -/
def maxPartSize : Nat := 255

/-- How many bytes a path may have. -/
def maxPathSize : Nat := 4095

/-- Where a path has led so far. -/
inductive Place where
  | inside (directory : List Path)
  | outside
  | at (content : ByteArray)
  | nowhere
  | below
  | refused

/-- What stands under the parts of a path in a directory of files, the last file of a name being the
one that is there. -/
def find (files : List (Path × ByteArray)) (target : List Path) : Place :=
  match (files.filter fun file => file.1.resolved = target).getLast? with
  | some file => .at file.2
  | none =>
    if files.any fun file => target.isPrefixOf file.1.resolved then .inside target else .nowhere

/-- Goes one part of a path further. -/
def Place.enter (files : List (Path × ByteArray)) (part : Path) : Place → Place
  | inside directory =>
    if part = [] || part = Path.here then inside directory
    else if part = Path.above then
      if directory.isEmpty then outside else inside directory.dropLast
    else if maxPartSize < part.length then refused
    else find files (directory ++ [part])
  | outside =>
    if part = [] || part = Path.here || part = Path.above then outside
    else if maxPartSize < part.length then refused
    else nowhere
  | .at _ => below
  | stuck => stuck

/-- The view of a directory that holds the given files and nothing else. -/
def ofList (files : List (Path × ByteArray)) : Files := fun path =>
  let start := if path.head? = some 0x2F then Place.outside else .inside []
  if path.isEmpty then .missing
  else if maxPathSize < path.length then .overlong
  else match path.parts.foldl (fun place part => place.enter files part) start with
    | .inside _ | .outside => .directory
    | .at content => .file content
    | .nowhere => .missing
    | .below => .underFile
    | .refused => .overlong

/-- Why a file yields no value. -/
inductive ReadError where
  | missing
  | underFile
  | directory
  | overlong
  /-- Half of a surrogate pair stands in the path that is no byte. -/
  | unwritable
  /-- The path holds a zero, which no path can hold. -/
  | embeddedNul
  | undecodable
  | malformed
  | tooManyDigits (digits : Nat)
  | tooDeep
deriving DecidableEq

/-- The value that bytes write. -/
def jsonOfBytes (content : ByteArray) : Except ReadError Json :=
  match String.fromUTF8? content with
  | none => .error .undecodable
  | some text =>
    match Json.read (.ofString text) with
    | .ok value => .ok value
    | .error (.malformed _) => .error .malformed
    | .error (.tooManyDigits digits) => .error (.tooManyDigits digits)
    | .error .tooDeep => .error .tooDeep

/-- The value that the file at a path writes. -/
def readAt (files : Files) (path : Path) : Except ReadError Json :=
  if path.contains 0 then .error .embeddedNul
  else match files path with
    | .missing => .error .missing
    | .underFile => .error .underFile
    | .directory => .error .directory
    | .overlong => .error .overlong
    | .file content => jsonOfBytes content

/-- The value that the file writes whose path a text names. -/
def readJson (files : Files) (path : Text) : Except ReadError Json :=
  match Path.ofText? path with
  | some path => readAt files path
  | none => .error .unwritable

/-- A file is read exactly when its bytes are the text of a value. -/
theorem readAt_eq_ok_iff {files : Files} {path : Path} {value : Json} :
    readAt files path = .ok value ↔
      0 ∉ path ∧ ∃ content text, files path = .file content ∧
        String.fromUTF8? content = some text ∧ Json.read (.ofString text) = .ok value := by
  simp only [readAt, jsonOfBytes, List.contains_eq_mem, decide_eq_true_eq]
  by_cases hnul : 0 ∈ path
  · simp [hnul]
  · simp only [hnul, if_false, not_false_eq_true, true_and]
    cases files path with
    | missing => simp
    | underFile => simp
    | directory => simp
    | overlong => simp
    | file content =>
      cases htext : String.fromUTF8? content with
      | none => simp [htext]
      | some text =>
        cases hread : Json.read (.ofString text) with
        | ok found => simp [htext, hread]
        | error fault => cases fault <;> simp [htext, hread]

end Files

end ProseGuard
