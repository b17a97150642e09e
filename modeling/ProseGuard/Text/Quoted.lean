import ProseGuard.Text.Basic
import ProseGuard.Text.Printable

/-!
# Quoted text

Text between quotes, with escapes for what would not show: the form in which messages and logs
name a text. Half of a surrogate pair never shows. Quotes are single, or double around a text that
holds a single quote and no double one.
-/

namespace ProseGuard.Text

/-- A hexadecimal digit, in lower case. -/
def hexDigit (n : Nat) : Point :=
  .ofNat (if n < 10 then 0x30 + n else 0x61 + (n - 10))

/-- The last `width` hexadecimal digits of a number. -/
def hexDigits : Nat → Nat → Text
  | 0, _ => []
  | width + 1, n => hexDigits width (n / 16) ++ [hexDigit (n % 16)]

/-- The escape that names a code. -/
def codeEscape (code : Nat) : Text :=
  if code < 0x100 then "\\x" ++ hexDigits 2 code
  else if code < 0x10000 then "\\u" ++ hexDigits 4 code
  else "\\U" ++ hexDigits 8 code

/-- How one point stands inside quotes. -/
def quotedPoint (quote c : Point) : Text :=
  if c = quote || c = '\\' then ['\\', c]
  else if c = '\n' then "\\n"
  else if c = '\r' then "\\r"
  else if c = '\t' then "\\t"
  else if isPrintable c then [c]
  else codeEscape c.toNat

/-- The quote that a text is put between. -/
def quoteFor (text : Text) : Point :=
  if text.contains '\'' && !text.contains '"' then '"' else '\''

/-- The text between quotes. -/
def quoted (text : Text) : Text :=
  let quote := quoteFor text
  quote :: text.flatMap (quotedPoint quote) ++ [quote]

/-- Texts between quotes, separated by commas, between square brackets. -/
def quotedList (texts : List Text) : Text :=
  "[" ++ join ", " (texts.map quoted) ++ "]"

end ProseGuard.Text
