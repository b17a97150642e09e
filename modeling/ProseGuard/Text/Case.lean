import ProseGuard.Text.Basic
import ProseGuard.Text.CaseTable

/-!
# Letter case

Full case mapping of text. A capital sigma becomes the final small sigma where it ends a word:
after a cased letter and before none, looking through the characters that case context ignores.
-/

namespace ProseGuard.Text

/-- The lower case of a character outside any context. -/
def lowerPoint (c : Point) : Text :=
  if c = 'İ' then ['i', '\u0307'] else [.ofNat (shifted lowerShifts c.toNat)]

/-- Whether the text goes on with a cased letter, ignorable characters passed over. -/
def casedNext (text : Text) : Bool :=
  ((text.dropWhile (within caseIgnorables)).head?.map (within casedLetters)).getD false

/-- Lower-cases a text that follows a cased letter or not. -/
def lowerFrom (afterCased : Bool) : Text → Text
  | [] => []
  | c :: cs =>
    let lowered : Text :=
      if c = 'Σ' then [if afterCased && !casedNext cs then 'ς' else 'σ'] else lowerPoint c
    lowered ++ lowerFrom (if within caseIgnorables c then afterCased else within casedLetters c) cs

/-- The text in lower case. -/
def lower (text : Text) : Text :=
  lowerFrom false text

/-- The upper case of a character. -/
def upperPoint (c : Point) : Text :=
  match upperSequences.lookup c.toNat with
  | some sequence => sequence.map .ofNat
  | none => [.ofNat (shifted upperShifts c.toNat)]

/-- The text in upper case. -/
def upper (text : Text) : Text :=
  text.flatMap upperPoint

end ProseGuard.Text
