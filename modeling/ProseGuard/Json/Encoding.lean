import ProseGuard.Text.Basic

/-!
# Encodings of JSON text

JSON text may come as UTF-8, UTF-16 or UTF-32. It starts with a character of the ASCII range, so
where zeros stand among its first four bytes tells the encoding. Half of a surrogate pair may
stand alone in UTF-16 and UTF-32.
-/

namespace ProseGuard.Json

/-- Which byte of a unit comes first: the most significant one or the least. -/
inductive ByteOrder where
  | big
  | little
deriving DecidableEq

/-- How bytes write code points. -/
inductive Encoding where
  | utf8
  | utf16 (order : ByteOrder)
  | utf32 (order : ByteOrder)
deriving DecidableEq

/-- The number that bytes write in base 256. -/
def ByteOrder.value (order : ByteOrder) (bytes : List UInt8) : Nat :=
  match order with
  | .big => bytes.foldl (fun value byte => value * 0x100 + byte.toNat) 0
  | .little => bytes.foldr (fun byte value => value * 0x100 + byte.toNat) 0

/-- The two UTF-16 units, or the one, that write a code. -/
def utf16Units (code : Nat) : List Nat :=
  if code < 0x10000 then [code]
  else [0xD800 + (code - 0x10000) / 0x400, 0xDC00 + (code - 0x10000) % 0x400]

/-- The codes that UTF-16 units write. -/
def joinHalves : List Nat → List Nat
  | [] => []
  | [unit] => [unit]
  | high :: low :: units =>
    if Point.isHighCode high && Point.isLowCode low then
      Point.pairCode high low :: joinHalves units
    else high :: joinHalves (low :: units)

namespace Encoding

/-- The encoding of JSON text that begins with the given bytes. -/
def detect : List UInt8 → Encoding
  | a :: b :: c :: d :: _ =>
    if a = 0 then if b = 0 then utf32 .big else utf16 .big
    else if b = 0 then if c = 0 ∧ d = 0 then utf32 .little else utf16 .little
    else utf8
  | [a, b] => if a = 0 then utf16 .big else if b = 0 then utf16 .little else utf8
  | _ => utf8

/-- The UTF-16 units that bytes write; none if half a unit is left. -/
def units? (order : ByteOrder) : List UInt8 → Option (List Nat)
  | [] => some []
  | a :: b :: bytes => (units? order bytes).map (order.value [a, b] :: ·)
  | [_] => none

/-- The codes that bytes write in UTF-32; none if one is not complete or too large. -/
def codes32? (order : ByteOrder) : List UInt8 → Option (List Nat)
  | [] => some []
  | a :: b :: c :: d :: bytes =>
    if order.value [a, b, c, d] < 0x110000 then
      (codes32? order bytes).map (order.value [a, b, c, d] :: ·)
    else none
  | _ => none

/-- A text without a byte order mark in front. -/
def dropMark : Text → Text
  | .char '\uFEFF' :: text => text
  | text => text

/-- The text that bytes write; none if the bytes are not of the encoding. A byte order mark is left
out of UTF-8. -/
def decode? : Encoding → List UInt8 → Option Text
  | utf8, bytes => (String.fromUTF8? ⟨bytes.toArray⟩).map fun s => dropMark (.ofString s)
  | utf16 order, bytes => (units? order bytes).map fun units => (joinHalves units).map .ofNat
  | utf32 order, bytes => (codes32? order bytes).map fun codes => codes.map .ofNat

end Encoding

end ProseGuard.Json
