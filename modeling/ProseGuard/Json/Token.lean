import ProseGuard.Json.Binary64
import ProseGuard.Text.Basic
import ProseGuard.Text.Integer
import ProseGuard.Text.Search

/-!
# JSON tokens

The lexical level of JSON text. Every token knows the code point at which it starts; text that is
no token becomes one of the faulty tokens, which ends the list. Beside the standard literals,
`NaN`, `Infinity` and `-Infinity` are numbers. An escape may name half of a surrogate pair; the
escapes of two halves that make a pair are one character.
-/

namespace ProseGuard.Json

/-- The largest number of digits that an integer may be written with. -/
def maxDigits : Nat := 4300

/-- The content of a token. -/
inductive Lexeme where
  | openArray
  | closeArray
  | openObject
  | closeObject
  | comma
  | colon
  | null
  | bool (value : Bool)
  | integer (value : Int)
  | number (value : Binary64)
  | string (value : Text)
  /-- An integer of more digits than allowed. -/
  | longInteger (digits : Nat)
  /-- A string that is malformed at the given code point. -/
  | badString (offset : Nat)
  /-- A character that starts no token. -/
  | stray
  | endOfText
deriving DecidableEq

/-- A token and the code point at which it starts. -/
structure Token where
  offset : Nat
  lexeme : Lexeme
deriving DecidableEq

/-- White space between tokens. -/
def isSpace (c : Point) : Bool :=
  c = ' ' || c = '\t' || c = '\n' || c = '\r'

/-- The value of a hexadecimal digit. -/
def hexValue? (c : Point) : Option Nat :=
  if '0' ≤ c ∧ c ≤ '9' then some (c.toNat - 0x30)
  else if 'a' ≤ c ∧ c ≤ 'f' then some (c.toNat - 0x61 + 10)
  else if 'A' ≤ c ∧ c ≤ 'F' then some (c.toNat - 0x41 + 10)
  else none

/-- The value of four hexadecimal digits at the start of a text. -/
def hexUnit? : Text → Option Nat
  | a :: b :: c :: d :: _ =>
    match hexValue? a, hexValue? b, hexValue? c, hexValue? d with
    | some a, some b, some c, some d => some (((a * 16 + b) * 16 + c) * 16 + d)
    | _, _, _, _ => none
  | _ => none

/-- The character that one letter after a backslash stands for. -/
def escaped? : Point → Option Char
  | .char '"' => some '"'
  | .char '\\' => some '\\'
  | .char '/' => some '/'
  | .char 'b' => some '\x08'
  | .char 'f' => some '\x0c'
  | .char 'n' => some '\n'
  | .char 'r' => some '\r'
  | .char 't' => some '\t'
  | _ => none

/-- The second half of a surrogate pair that an escape at the start of a text names, if the first
half is `high` and more than the escape is left; none if there is no such escape, and a fault if
it is malformed. -/
def secondHalf (high : Nat) (rest : Text) : Except Unit (Option Nat) :=
  if Point.isHighCode high && !(rest.drop 6).isEmpty && rest.take 2 = "\\u" then
    match hexUnit? (rest.drop 2) with
    | none => .error ()
    | some low => .ok (if Point.isLowCode low then some low else none)
  else .ok none

/-- Reads the rest of a string literal that was opened at `start`; `offset` is the code point
reached, `skip` characters of an escape are passed over, and `content` is what was read, last
character first. Answers the content and the offset after the literal, or the offset of the
fault. -/
def stringFrom (start : Nat) :
    (offset skip : Nat) → (content : Text) → Text → Except Nat (Text × Nat)
  | _, _, _, [] => .error start
  | offset, skip + 1, content, _ :: cs => stringFrom start (offset + 1) skip content cs
  | offset, 0, content, c :: cs =>
    if c = '"' then .ok (content.reverse, offset + 1)
    else if c.toNat < 0x20 then .error offset
    else if c ≠ '\\' then stringFrom start (offset + 1) 0 (c :: content) cs
    else match cs with
      | [] => .error start
      | e :: rest =>
        if e = 'u' then
          match hexUnit? rest with
          | none => .error (offset + 1)
          | some unit =>
            if (rest.drop 4).isEmpty then .error (offset + 1)
            else match secondHalf unit (rest.drop 4) with
              | .error () => .error (offset + 7)
              | .ok (some low) =>
                stringFrom start (offset + 1) 11 (.ofNat (Point.pairCode unit low) :: content)
                  cs
              | .ok none => stringFrom start (offset + 1) 5 (.ofNat unit :: content) cs
        else match escaped? e with
          | none => .error offset
          | some plain => stringFrom start (offset + 1) 1 (plain :: content) cs

/-- The digits at the start of a text. -/
def digitsOf (text : Text) : Text :=
  text.takeWhile Text.isAsciiDigit

/-- The digits of the integer part of a number: a zero alone, or digits not led by a zero. -/
def wholeDigits : Text → Text
  | .char '0' :: _ => "0"
  | text => digitsOf text

/-- The digits of a fraction at the start of a text. -/
def fractionDigits : Text → Text
  | .char '.' :: text => digitsOf text
  | _ => []

/-- The sign and the digits of an exponent at the start of a text. -/
def exponentPart : Text → Option (Text × Text)
  | e :: text =>
    if e = 'e' ∨ e = 'E' then
      let sign : Text := match text with
        | .char '+' :: _ => "+"
        | .char '-' :: _ => "-"
        | _ => ""
      let digits := digitsOf (text.drop sign.length)
      if digits.isEmpty then none else some (sign, digits)
    else none
  | [] => none

/-- The number at the start of a text and how many characters write it. -/
def numberToken? (text : Text) : Option (Lexeme × Nat) :=
  let negative := text.head? = some (.char '-')
  let signSize := if negative then 1 else 0
  let unsigned := text.drop signSize
  let whole := wholeDigits unsigned
  let fraction := fractionDigits (unsigned.drop whole.length)
  let fractionSize := if fraction.isEmpty then 0 else fraction.length + 1
  let exponent := exponentPart (unsigned.drop (whole.length + fractionSize))
  if whole.isEmpty then none
  else if fraction.isEmpty && exponent.isNone then
    let value : Int := Text.digitsValue whole
    let lexeme := if maxDigits < whole.length then .longInteger whole.length
      else .integer (if negative then -value else value)
    some (lexeme, signSize + whole.length)
  else
    let exponentSize := match exponent with
      | some (sign, digits) => 1 + sign.length + digits.length
      | none => 0
    let power : Int := match exponent with
      | some ([.char '-'], digits) => -(Text.digitsValue digits : Int)
      | some (_, digits) => Text.digitsValue digits
      | none => 0
    let value :=
      Binary64.ofDecimal negative (Text.digitsValue (whole ++ fraction)) (power - fraction.length)
    some (.number value, signSize + whole.length + fractionSize + exponentSize)

/-- The literals that are words. -/
def wordTokens : List (Text × Lexeme) :=
  [("null", .null), ("true", .bool true), ("false", .bool false), ("NaN", .number .notANumber),
    ("Infinity", .number .infinite), ("-Infinity", .number .infinite)]

/-- The token at the start of a text that begins with `c`, and how many characters of `cs` belong
to it. -/
def readToken (offset : Nat) (c : Point) (cs : Text) : Lexeme × Nat :=
  match c with
  | .char '[' => (.openArray, 0)
  | .char ']' => (.closeArray, 0)
  | .char '\x7b' => (.openObject, 0)
  | .char '\x7d' => (.closeObject, 0)
  | .char ',' => (.comma, 0)
  | .char ':' => (.colon, 0)
  | .char '"' =>
    match stringFrom offset (offset + 1) 0 [] cs with
    | .ok (content, stop) => (.string content, stop - offset - 1)
    | .error place => (.badString place, cs.length)
  | c =>
    match wordTokens.find? fun word => word.1.isPrefixOf (c :: cs) with
    | some (word, lexeme) => (lexeme, word.length - 1)
    | none =>
      match numberToken? (c :: cs) with
      | some (lexeme, size) => (lexeme, size - 1)
      | none => (.stray, cs.length)

/-- The tokens of a text that starts at a code point. -/
def tokensFrom (offset : Nat) : Text → List Token
  | [] => [⟨offset, .endOfText⟩]
  | c :: cs =>
    if isSpace c then tokensFrom (offset + 1) cs
    else
      let (lexeme, size) := readToken offset c cs
      ⟨offset, lexeme⟩ :: tokensFrom (offset + 1 + size) (cs.drop size)
termination_by text => text.length

end ProseGuard.Json
