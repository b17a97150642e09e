import ProseGuard.Text.Blank

/-!
# Integers in text

The decimal digits of every script, from version 14.0 of the Unicode character database: each script
has its ten digits in a row, so a table of the zeros is enough. Integers as they are typed: with
white space around them, a sign, digits of any script, and a low line between digits.
-/

namespace ProseGuard.Text

/-- The zeros of all scripts, in order of code point. -/
def digitZeros : List Nat := [
  0x30, 0x660, 0x6F0, 0x7C0, 0x966, 0x9E6, 0xA66, 0xAE6, 0xB66, 0xBE6, 0xC66, 0xCE6, 0xD66,
  0xDE6, 0xE50, 0xED0, 0xF20, 0x1040, 0x1090, 0x17E0, 0x1810, 0x1946, 0x19D0, 0x1A80, 0x1A90,
  0x1B50, 0x1BB0, 0x1C40, 0x1C50, 0xA620, 0xA8D0, 0xA900, 0xA9D0, 0xA9F0, 0xAA50, 0xABF0,
  0xFF10, 0x104A0, 0x10D30, 0x11066, 0x110F0, 0x11136, 0x111D0, 0x112F0, 0x11450, 0x114D0,
  0x11650, 0x116C0, 0x11730, 0x118E0, 0x11950, 0x11C50, 0x11D50, 0x11DA0, 0x16A60, 0x16AC0,
  0x16B50, 0x1D7CE, 0x1D7D8, 0x1D7E2, 0x1D7EC, 0x1D7F6, 0x1E140, 0x1E2F0, 0x1E950, 0x1FBF0]

/-- The value of a decimal digit of any script. -/
def digitValue? (c : Point) : Option Nat :=
  (digitZeros.find? fun first => first ≤ c.toNat && c.toNat < first + 10).map (c.toNat - ·)

/-- A digit of the ASCII range. -/
def isAsciiDigit (c : Point) : Bool :=
  '0' ≤ c && c ≤ '9'

/-- The number that a run of ASCII digits writes. -/
def digitsValue (digits : List Point) : Nat :=
  digits.foldl (fun value c => 10 * value + (c.toNat - 0x30)) 0

/-- The largest number of digits that an integer may be typed with. -/
def maxIntegerDigits : Nat := 4300

/-- The values of digits with single low lines between them; `afterDigit` tells whether a digit
was just read. -/
def digitValuesFrom (afterDigit : Bool) : Text → Option (List Nat)
  | [] => if afterDigit then some [] else none
  | c :: cs =>
    if c = '_' then
      if afterDigit && !cs.isEmpty then digitValuesFrom false cs else none
    else match digitValue? c with
      | some value => (digitValuesFrom true cs).map (value :: ·)
      | none => none

/-- The number that values of digits write. -/
def numberOfDigits (values : List Nat) : Nat :=
  values.foldl (fun number value => 10 * number + value) 0

/-- The natural number that a text without white space and sign writes. -/
def readNatural? (text : Text) : Option Nat :=
  match digitValuesFrom false text with
  | some values => if values.length ≤ maxIntegerDigits then some (numberOfDigits values) else none
  | none => none

/-- The integer that a text writes. -/
def readInteger? (text : Text) : Option Int :=
  match trimWhere isWhiteSpace text with
  | .char '-' :: cs => (readNatural? cs).map fun n => -(n : Int)
  | .char '+' :: cs => (readNatural? cs).map Int.ofNat
  | cs => (readNatural? cs).map Int.ofNat

end ProseGuard.Text
