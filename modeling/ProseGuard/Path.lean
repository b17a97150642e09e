import ProseGuard.Text.Blank

/-!
# Paths

The bytes that name a file. A text names a file by its bytes in UTF-8; the halves of surrogate
pairs from U+DC80 to U+DCFF stand for one byte each, by which a name that is no UTF-8 is a text
too, and the other halves can stand in no path. Main statement: `Path.ofText?_ofString`, by which
every string names a file.
-/

namespace ProseGuard

/-- The bytes that name a file. -/
abbrev Path := List UInt8

namespace Path

/-- The bytes that a point of a path is written with. -/
def bytesOfPoint? : Point → Option (List UInt8)
  | .char c => some (String.utf8EncodeChar c)
  | .half index =>
    if 0x480 ≤ index.val ∧ index.val < 0x500 then some [(index.val - 0x400).toUInt8] else none

/-- The path that a text writes; none if a half stands in it that is no byte. -/
def ofText? (text : Text) : Option Path :=
  (text.mapM bytesOfPoint?).map List.flatten

/-- The character whose bytes in UTF-8 are the first ones, up to four. -/
def firstChar? (bytes : List UInt8) : Option Char :=
  [1, 2, 3, 4].findSome? fun size =>
    match (String.fromUTF8? ⟨(bytes.take size).toArray⟩).map String.toList with
    | some [c] => some c
    | _ => none

/-- The text of bytes from behind `skip` ones on. -/
def textFrom : Nat → List UInt8 → Text
  | _, [] => []
  | skip + 1, _ :: bytes => textFrom skip bytes
  | 0, byte :: bytes =>
    match firstChar? (byte :: bytes) with
    | some c => .char c :: textFrom (c.utf8Size - 1) bytes
    | none => .half ⟨0x400 + byte.toNat, by have := byte.toNat_lt; omega⟩ :: textFrom 0 bytes

/-- The text that writes a path: its characters in UTF-8, and a half for every other byte. -/
def toText (path : Path) : Text :=
  textFrom 0 path

/-- The parts of a path between slashes. -/
def parts (path : Path) : List Path :=
  Text.splitWhere (fun byte => byte = 0x2F) path

/-- The part that leads nowhere else. -/
def here : Path := [0x2E]

/-- The part that leads to the directory above. -/
def above : Path := [0x2E, 0x2E]

/-- Goes one part further from a directory, which is given by the parts that lead to it. -/
def enter (directory : List Path) (part : Path) : List Path :=
  if part = [] || part = here then directory
  else if part = above then directory.dropLast
  else directory ++ [part]

/-- The parts of a path, those left out that lead nowhere in the end. -/
def resolved (path : Path) : List Path :=
  path.parts.foldl enter []

/-- Every string names a file, by its bytes in UTF-8. -/
theorem ofText?_ofString (s : String) :
    ofText? (.ofString s) = some (s.toList.flatMap String.utf8EncodeChar) := by
  have hmap : ∀ cs : List Char, (cs.map Point.char).mapM bytesOfPoint? =
      some (cs.map String.utf8EncodeChar) := by
    intro cs
    induction cs with
    | nil => rfl
    | cons c cs ih => simp [List.mapM_cons, bytesOfPoint?, ih]
  simp [ofText?, Text.ofString, hmap, List.flatMap_def]

end Path

end ProseGuard
