import Mathlib.Tactic.IntervalCases
import ProseGuard.Text.Integer

/-!
# Reading digits

What a text of nothing but digits is read as. Main statement: `readInteger?_of_digits`, by which
it writes the number of its digits unless there are more than an integer may have.
-/

namespace ProseGuard.Text

variable {c : Point} {text : Text}

/-- There are ten digits of the ASCII range. -/
theorem mem_of_isAsciiDigit (h : isAsciiDigit c) : c ∈ ("0123456789" : Text) := by
  obtain ⟨hlow, hhigh⟩ : Point.char '0' ≤ c ∧ c ≤ Point.char '9' := by
    simpa [isAsciiDigit] using h
  have hlow : 48 ≤ c.toNat := hlow
  have hhigh : c.toNat ≤ 57 := hhigh
  rw [← Point.ofNat_toNat c]
  interval_cases c.toNat <;> decide

/-- A digit is told apart from all that may stand around and between digits, and has its value. -/
theorem digit_spec (h : isAsciiDigit c) : isWhiteSpace c = false ∧ c ≠ '_' ∧ c ≠ '-' ∧ c ≠ '+' ∧
    digitValue? c = some (c.toNat - 0x30) := by
  have hall : ∀ d ∈ ("0123456789" : Text), isWhiteSpace d = false ∧ d ≠ '_' ∧ d ≠ '-' ∧ d ≠ '+' ∧
      digitValue? d = some (d.toNat - 0x30) := by
    decide
  exact hall c (mem_of_isAsciiDigit h)

/-- Digits have their values, in order. -/
theorem digitValuesFrom_of_digits {afterDigit : Bool} (hdigits : ∀ c ∈ text, isAsciiDigit c)
    (hafter : text ≠ [] ∨ afterDigit = true) :
    digitValuesFrom afterDigit text = some (text.map fun c => c.toNat - 0x30) := by
  induction text generalizing afterDigit with
  | nil =>
      obtain rfl : afterDigit = true := hafter.resolve_left fun h => h rfl
      rfl
  | cons c cs ih =>
      obtain ⟨-, hline, -, -, hvalue⟩ := digit_spec (hdigits c List.mem_cons_self)
      rw [digitValuesFrom, if_neg hline, hvalue]
      simp only [ih (fun d hd => hdigits d (List.mem_cons_of_mem c hd)) (.inr rfl),
        Option.map_some, List.map_cons]

/-- A text of digits is not led or followed by white space. -/
theorem trimWhere_of_digits (hdigits : ∀ c ∈ text, isAsciiDigit c) :
    trimWhere isWhiteSpace text = text := by
  have hkeep : ∀ cs : Text, (∀ c ∈ cs, isAsciiDigit c) → cs.dropWhile isWhiteSpace = cs := by
    intro cs hcs
    cases cs with
    | nil => rfl
    | cons c cs =>
        have hwhite := (digit_spec (hcs c List.mem_cons_self)).1
        rw [List.dropWhile_cons_of_neg (by simp [hwhite])]
  rw [trimWhere, hkeep text hdigits,
    hkeep text.reverse fun c hc => hdigits c (List.mem_reverse.1 hc), List.reverse_reverse]

/-- Digits write the number of their values, unless there are too many. -/
theorem readInteger?_of_digits (hne : text ≠ []) (hdigits : ∀ c ∈ text, isAsciiDigit c) :
    readInteger? text =
      if text.length ≤ maxIntegerDigits then some (digitsValue text : Int) else none := by
  have hnatural : readNatural? text =
      if text.length ≤ maxIntegerDigits then some (digitsValue text) else none := by
    rw [readNatural?, digitValuesFrom_of_digits hdigits (.inl hne)]
    simp only [List.length_map, numberOfDigits, List.foldl_map, digitsValue]
  rw [readInteger?, trimWhere_of_digits hdigits]
  cases text with
  | nil => exact absurd rfl hne
  | cons c cs =>
      obtain ⟨-, -, hminus, hplus, -⟩ := digit_spec (hdigits c List.mem_cons_self)
      split
      · next h => exact absurd (List.cons.inj h).1 hminus
      · next h => exact absurd (List.cons.inj h).1 hplus
      · rw [hnatural]
        split <;> rfl

end ProseGuard.Text
