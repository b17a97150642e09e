import ProseGuard.Json.Basic
import ProseGuard.Json.Token
import ProseGuard.Record.Checked
import ProseGuard.Text.Blank
import ProseGuard.Text.Integer

/-!
# Values of record fields

Lenient readers for the kinds of value that records hold. Flags may be written as numbers or
words, integers as texts or as numbers without a fraction; text must be text. Where more than being
text is asked of a text, no half of a surrogate pair may stand in it. Main statements:
`text_string`, `flag_bool`, `integer_integer` and `listOf_array`, by which each reader takes the
plain form of its kind as it is.
-/

namespace ProseGuard.Record

open Json (Binary64 Members)

/-- Reads text. -/
def text : Json → Checked Text
  | .string text => .valid text
  | _ => .flawed .notText

/-- Reads a text in which no half of a surrogate pair may stand. -/
def ofWhole {α : Type} (read : Text → Checked α) (text : Text) : Checked α :=
  if text.isWhole then read text else .flawed .brokenText

/-- A text that is not empty and in which no half of a surrogate pair stands. -/
abbrev NonEmptyText :=
  { text : Text // text ≠ [] ∧ text.isWhole = true }

/-- Reads text that is not empty. -/
def nonEmptyText : Json → Checked NonEmptyText
  | .string text =>
    if hwhole : text.isWhole = true then
      if h : text = [] then .flawed .tooShort else .valid ⟨text, h, hwhole⟩
    else .flawed .brokenText
  | _ => .flawed .notText

/-- The words that stand for a flag that is not set. -/
def falseWords : List Text := ["0", "off", "f", "false", "n", "no"]

/-- The words that stand for a flag that is set. -/
def trueWords : List Text := ["1", "on", "t", "true", "y", "yes"]

/-- The size from which on a number is no machine word. -/
def wordBound : Nat := 0x8000000000000000

/-- The flag that a number stands for. -/
def flagOfInteger (value : Int) : Checked Bool :=
  if value = 0 then .valid false
  else if value = 1 then .valid true
  else if -wordBound ≤ value ∧ value < wordBound then .flawed .flagSpelling
  else .flawed .notFlag

/-- The flag that a binary number stands for. -/
def flagOfNumber (value : Binary64) : Checked Bool :=
  match value.toInt? with
  | some value => if value.natAbs < wordBound then flagOfInteger value else .flawed .notFlag
  | none => .flawed .notFlag

/-- The flag that a word stands for. -/
def flagOfText (text : Text) : Checked Bool :=
  if falseWords.contains (text.map Point.asciiLower) then .valid false
  else if trueWords.contains (text.map Point.asciiLower) then .valid true
  else .flawed .flagSpelling

/-- Reads a flag. -/
def flag : Json → Checked Bool
  | .bool value => .valid value
  | .integer value => flagOfInteger value
  | .number value => flagOfNumber value
  | .string text => ofWhole flagOfText text
  | _ => .flawed .notFlag

/-- The text of an integer from its first significant digit on. A sign in front is kept; among
leading zeros a low line may stand, and a sign behind them counts. -/
def dropLeadingZeros : Text → Option Text
  | .char '-' :: cs => (dropLeadingZeros cs).map (.char '-' :: ·)
  | .char '0' :: cs => afterZero '0' cs
  | c :: cs => if Text.isAsciiDigit c then some (c :: cs) else none
  | [] => none
where
  /-- Goes on behind a leading zero; `last` is the character before. -/
  afterZero (last : Point) : Text → Option Text
    | [] => some [last]
    | c :: cs =>
      if c = '0' || c = '_' then afterZero c cs
      else if Text.isAsciiDigit c || c = '-' then some (c :: cs)
      else if c = '.' then some (last :: c :: cs)
      else none

/-- The text before a point that zeros follow, one at least, and nothing else. -/
def dropZeroFraction (text : Text) : Text :=
  match text.dropWhile fun c : Point => c ≠ '.' with
  | _ :: .char '0' :: zeros =>
    if zeros.all fun c => c = '0' then text.takeWhile fun c => c ≠ '.' else text
  | _ => text

/-- The text without low lines, where each of them stands alone between other characters. -/
def dropLowLines (text : Text) : Text :=
  if text.head? = some (.char '_') || text.getLast? = some (.char '_') || lowLinePair text then
    text
  else text.filter fun c => c ≠ '_'
where
  /-- Whether two low lines stand side by side. -/
  lowLinePair : Text → Bool
    | .char '_' :: .char '_' :: _ => true
    | _ :: cs => lowLinePair cs
    | [] => false

/-- The text behind a minus sign, if one leads it. -/
def unsigned (text : Text) : Text :=
  if text.head? = some (.char '-') then text.tail else text

/-- The digits at the start of a text, behind a minus sign or not. -/
def leadingDigits (text : Text) : Text :=
  (unsigned text).takeWhile Text.isAsciiDigit

/-- Whether a text starts with more digits than an integer may have, the first not a zero. -/
def startsTooLong (text : Text) : Bool :=
  (leadingDigits text).head? ≠ some (.char '0') && Json.maxDigits < (leadingDigits text).length

/-- The integer that digits write, led by a minus sign or not; a leading zero stands alone. -/
def plainInteger (text : Text) : Checked Int :=
  let digits := leadingDigits text
  let value : Int := Text.digitsValue digits
  if digits.isEmpty || digits ≠ unsigned text then .flawed .integerSpelling
  else if digits.head? = some (.char '0') && digits ≠ "0" then .flawed .integerSpelling
  else if Json.maxDigits < digits.length then .flawed .integerSpelling
  else .valid (if digits = text then value else -value)

/-- The integer that a text writes once it is cleaned of what may stand beside its digits. -/
def cleanedInteger (text : Text) : Checked Int :=
  let signed := match Text.trimWhere Text.isWhiteSpace text with
    | .char '+' :: .char '-' :: _ => none
    | .char '+' :: cs => some cs
    | cs => some cs
  match signed.bind dropLeadingZeros with
  | some digits => plainInteger (dropLowLines (dropZeroFraction digits))
  | none => .flawed .integerSpelling

/-- The integer that a text writes. Too many digits are told as such where the text starts with
them; elsewhere they are no spelling of an integer. -/
def integerOfText (text : Text) : Checked Int :=
  if startsTooLong text then .flawed .tooManyDigits else cleanedInteger text

/-- The integer that a binary number is. -/
def integerOfNumber : Binary64 → Checked Int
  | .finite significand exponent =>
    match (Binary64.finite significand exponent).toInt? with
    | some value =>
      if value.natAbs < wordBound then .valid value else .flawed .tooManyDigits
    | none => .flawed .fraction
  | _ => .flawed .notFinite

/-- Reads an integer. -/
def integer : Json → Checked Int
  | .integer value => .valid value
  | .bool value => .valid (if value then 1 else 0)
  | .number value => integerOfNumber value
  | .string text => ofWhole integerOfText text
  | _ => .flawed .notInteger

/-- Reads an integer that is not negative. -/
def natural (value : Json) : Checked Nat :=
  match integer value with
  | .valid value => if 0 ≤ value then .valid value.toNat else .flawed .belowMinimum
  | .invalid issues => .invalid issues

/-- What one of several words stands for. -/
def choiceOfText {α : Type} (options : List (Text × α)) (text : Text) : Checked α :=
  match options.lookup text with
  | some value => .valid value
  | none => .flawed .notChoice

/-- Reads one of several words. -/
def choice {α : Type} (options : List (Text × α)) : Json → Checked α
  | .string text => ofWhole (choiceOfText options) text
  | _ => .flawed .notChoice

/-- Reads a list. -/
def listOf {α : Type} (item : Json → Checked α) : Json → Checked (List α)
  | .array items => .each item items
  | _ => .flawed .notList

/-- Reads a record from the members of an object. -/
def ofObject {α : Type} (read : Members → Checked α) : Json → Checked α
  | .object members => read members
  | _ => .flawed .notRecord

/-- Reads a field that must be there. -/
def required {α : Type} (members : Members) (name : Text) (item : Json → Checked α) :
    Checked α :=
  (match members.lookup name with
    | some value => item value
    | none => .flawed .missing).under (.field name)

/-- Reads a field that has a default. -/
def optional {α : Type} (members : Members) (name : Text) (default : α)
    (item : Json → Checked α) : Checked α :=
  match members.lookup name with
  | some value => (item value).under (.field name)
  | none => .valid default

@[simp] theorem text_string (value : Text) : text (.string value) = .valid value := rfl

@[simp] theorem flag_bool (value : Bool) : flag (.bool value) = .valid value := rfl

@[simp] theorem integer_integer (value : Int) : integer (.integer value) = .valid value := rfl

@[simp] theorem natural_integer (value : Nat) : natural (.integer value) = .valid value := by
  simp [natural]

/-- A list of values in a form that the item reader takes as it is reads back as itself. -/
theorem listOf_array {α : Type} {item : Json → Checked α} {form : α → Json}
    (h : ∀ a, item (form a) = .valid a) (values : List α) :
    listOf item (.array (values.map form)) = .valid values := by
  simp [listOf, Checked.each_eq_valid_iff, h, Function.comp_def]

end ProseGuard.Record
