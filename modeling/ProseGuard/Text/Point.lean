/-!
# Points of text

The units of which text consists: characters, and halves of surrogate pairs. A half stands alone
where a text names one without the other, as JSON can. Points are ordered by their code. Main
statements: `Point.ofNat_toNat`, by which the code of a point tells the point, and
`Point.char?_char`.

A set of characters is written as an inversion list: the ascending list of code points at which
membership changes, where the first bound is the first member, the second the first non-member
after it, and so on.
-/

namespace ProseGuard

/-- A unit of text: a character, or half of a surrogate pair that stands alone. -/
inductive Point where
  | char (c : Char)
  | half (index : Fin 0x800)
deriving DecidableEq

namespace Point

instance : Coe Char Point := ⟨char⟩

/-- The code of the first half. -/
def firstHalf : Nat := 0xD800

/-- The code point. -/
def toNat : Point → Nat
  | char c => c.toNat
  | half index => firstHalf + index

/-- The point of a code; the null character where there is none. -/
def ofNat (code : Nat) : Point :=
  if h : firstHalf ≤ code ∧ code - firstHalf < 0x800 then half ⟨code - firstHalf, h.2⟩
  else char (.ofNat code)

/-- Whether the point is half of a surrogate pair. -/
def isHalf : Point → Bool
  | char _ => false
  | half _ => true

/-- The character that a point is. -/
def char? : Point → Option Char
  | char c => some c
  | half _ => none

/-- The point with an ASCII capital made small. -/
def asciiLower : Point → Point
  | char c => char c.toLower
  | half index => half index

instance : LT Point := ⟨fun p q => p.toNat < q.toNat⟩

instance : LE Point := ⟨fun p q => p.toNat ≤ q.toNat⟩

instance (p q : Point) : Decidable (p < q) :=
  inferInstanceAs (Decidable (p.toNat < q.toNat))

instance (p q : Point) : Decidable (p ≤ q) :=
  inferInstanceAs (Decidable (p.toNat ≤ q.toNat))

/-- Whether a code is that of the first half of a surrogate pair. -/
def isHighCode (code : Nat) : Bool :=
  0xD800 ≤ code && code < 0xDC00

/-- Whether a code is that of the second half of a surrogate pair. -/
def isLowCode (code : Nat) : Bool :=
  0xDC00 ≤ code && code < 0xE000

/-- The code of the character that the two halves of a surrogate pair write. -/
def pairCode (high low : Nat) : Nat :=
  0x10000 + (high - 0xD800) * 0x400 + (low - 0xDC00)

/-- A character is the point that it makes. -/
@[simp] theorem char?_char (c : Char) : (char c).char? = some c := rfl

/-- The code of a point tells the point. -/
@[simp] theorem ofNat_toNat (p : Point) : ofNat p.toNat = p := by
  cases p with
  | char c =>
    have hvalid := c.valid
    simp only [UInt32.isValidChar, Nat.isValidChar] at hvalid
    have hval : c.toNat = c.val.toNat := rfl
    have : ¬(firstHalf ≤ c.toNat ∧ c.toNat - firstHalf < 0x800) := by
      simp only [firstHalf]
      omega
    simp [ofNat, toNat, this]
  | half index => simp [ofNat, toNat]

/-- Points of one code are the same. -/
theorem toNat_injective {p q : Point} (h : p.toNat = q.toNat) : p = q := by
  rw [← ofNat_toNat p, h, ofNat_toNat]

instance : Std.Irrefl (fun p q : Point => p < q) :=
  ⟨fun p => Nat.lt_irrefl p.toNat⟩

instance : Std.Asymm (fun p q : Point => p < q) :=
  ⟨fun _ _ => Nat.lt_asymm⟩

instance : Trans (fun p q : Point => p < q) (fun p q => p < q) (fun p q => p < q) :=
  ⟨Nat.lt_trans⟩

instance : Std.Antisymm (fun p q : Point => ¬ p < q) :=
  ⟨fun _ _ hpq hqp => toNat_injective (Nat.le_antisymm (Nat.not_lt.1 hqp) (Nat.not_lt.1 hpq))⟩

end Point

namespace Text

/-- Whether the number of bounds at or below `n` is odd. -/
def insideFrom (inside : Bool) : List Nat → Nat → Bool
  | [], _ => inside
  | bound :: rest, n => if n < bound then inside else insideFrom (!inside) rest n

/-- Membership of a character in the set that an inversion list writes. -/
def within (bounds : List Nat) (c : Point) : Bool :=
  insideFrom false bounds c.toNat

end Text

end ProseGuard
