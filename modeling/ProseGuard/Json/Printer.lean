import ProseGuard.Json.Basic
import ProseGuard.Json.Encoding
import ProseGuard.Text.Quoted

/-!
# Writing JSON

Two layouts of a value: on one line in ASCII, and indented by two blanks a level with characters
kept as they are. A number of the binary format is written exactly, as a decimal without exponent.
-/

namespace ProseGuard.Json

/-- A point as escapes of its UTF-16 units. -/
def unitEscapes (c : Point) : Text :=
  (utf16Units c.toNat).flatMap fun unit => "\\u" ++ Text.hexDigits 4 unit

/-- A point inside a string; outside ASCII it stands for itself unless `ascii` is set. -/
def stringPoint (ascii : Bool) (c : Point) : Text :=
  if c = '"' || c = '\\' then ['\\', c]
  else if c = '\n' then "\\n"
  else if c = '\r' then "\\r"
  else if c = '\t' then "\\t"
  else if c = '\x08' then "\\b"
  else if c = '\x0c' then "\\f"
  else if c.toNat < 0x20 then unitEscapes c
  else if ascii && 0x7F ≤ c.toNat then unitEscapes c
  else [c]

/-- A string literal. -/
def stringLiteral (ascii : Bool) (text : Text) : Text :=
  "\"" ++ text.flatMap (stringPoint ascii) ++ "\""

/-- A binary number as a decimal without exponent. -/
def numberLiteral : Binary64 → Text
  | .notANumber => "NaN"
  | .infinite => "Infinity"
  | .finite significand exponent =>
    let sign : Text := if significand < 0 then "-" else ""
    let size := significand.natAbs
    if 0 ≤ exponent then sign ++ toString (size * Nat.pow 2 exponent.toNat) ++ ".0"
    else
      let places := (-exponent).toNat
      let digits : Text := toString (size * Nat.pow 5 places)
      let padded : Text := List.replicate (places + 1 - digits.length) (.char '0') ++ digits
      let split := padded.length - places
      sign ++ padded.take split ++ "." ++ padded.drop split

/-- A number literal for an integer. -/
def integerLiteral (value : Int) : Text :=
  toString value

mutual

/-- The value on one line, in ASCII. -/
def compact : Json → Text
  | null => "null"
  | bool value => if value then "true" else "false"
  | integer value => integerLiteral value
  | number value => numberLiteral value
  | string text => stringLiteral true text
  | array items => "[" ++ Text.join "," (compactItems items) ++ "]"
  | object members => "\x7b" ++ Text.join "," (compactMembers members) ++ "\x7d"

/-- The items of an array, each on one line. -/
def compactItems : List Json → List Text
  | [] => []
  | item :: items => compact item :: compactItems items

/-- The members of an object, each on one line. -/
def compactMembers : List (Text × Json) → List Text
  | [] => []
  | (key, value) :: members =>
    (stringLiteral true key ++ ":" ++ compact value) :: compactMembers members

end

/-- The start of a line at the given depth. -/
def newline (depth : Nat) : Text :=
  '\n' :: List.replicate (2 * depth) ' '

/-- Lines between brackets, one level deeper than the brackets. -/
def block (depth : Nat) (opening closing : Text) (lines : List Text) : Text :=
  if lines.isEmpty then opening ++ closing
  else
    opening ++ newline (depth + 1) ++ Text.join ("," ++ newline (depth + 1)) lines ++
      newline depth ++ closing

mutual

/-- The value over several lines, the inner ones at the given depth. -/
def indentedAt (depth : Nat) : Json → Text
  | null => "null"
  | bool value => if value then "true" else "false"
  | integer value => integerLiteral value
  | number value => numberLiteral value
  | string text => stringLiteral false text
  | array items => block depth "[" "]" (indentedItems (depth + 1) items)
  | object members => block depth "\x7b" "\x7d" (indentedMembers (depth + 1) members)

/-- The items of an array at the given depth. -/
def indentedItems (depth : Nat) : List Json → List Text
  | [] => []
  | item :: items => indentedAt depth item :: indentedItems depth items

/-- The members of an object at the given depth. -/
def indentedMembers (depth : Nat) : List (Text × Json) → List Text
  | [] => []
  | (key, value) :: members =>
    (stringLiteral false key ++ ": " ++ indentedAt depth value) :: indentedMembers depth members

end

/-- The value over several lines. -/
def indented (value : Json) : Text :=
  indentedAt 0 value

end ProseGuard.Json
