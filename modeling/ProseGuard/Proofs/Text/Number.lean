import Mathlib.Data.Int.Basic
import ProseGuard.Text.Basic

/-!
# Written numbers

A number is written in digits, behind a minus if it is negative (`not_mem_toString`), and no other is
written so (`toString_injective`).
-/

namespace ProseGuard.Text

/-- A natural number is written in digits. -/
theorem isDigit_of_mem_repr {n : Nat} {c : Char} (h : c ∈ n.repr.toList) : c.isDigit := by
  rw [Nat.toList_repr] at h
  exact Nat.isDigit_of_mem_toDigits (by decide) (by decide) h

/-- A written number consists of digits, behind a minus at most. -/
theorem not_mem_toString (value : Int) {mark : Char} (hdigit : ¬ mark.isDigit)
    (hminus : mark ≠ '-') : (mark : Point) ∉ ofString (toString value) := by
  have hmark : ∀ c ∈ (toString value).toList, c.isDigit ∨ c = '-' := by
    intro c hc
    rw [Int.toString_eq_repr, Int.repr_eq_if] at hc
    split at hc
    · exact .inl (isDigit_of_mem_repr hc)
    · rw [String.toList_append, List.mem_append] at hc
      rcases hc with hc | hc
      · exact .inr (by simpa using hc)
      · exact .inl (isDigit_of_mem_repr hc)
  intro hmem
  obtain ⟨c, hc, heq⟩ := List.mem_map.1 hmem
  cases heq
  exact (hmark mark hc).elim hdigit hminus

/-- Natural numbers are told apart by their digits. -/
theorem repr_inj {m n : Nat} (h : m.repr = n.repr) : m = n := by
  have hdigits : Nat.toDigits 10 m = Nat.toDigits 10 n := by
    rw [← Nat.toList_repr, ← Nat.toList_repr, h]
  rw [← Nat.ofDigitChars_toDigits (b := 10) (n := m) (by decide) (by decide), hdigits,
    Nat.ofDigitChars_toDigits (by decide) (by decide)]

/-- A natural number is not written with a minus. -/
theorem repr_ne_minus (m n : Nat) : m.repr ≠ "-" ++ n.repr := by
  intro h
  have hminus : '-' ∈ m.repr.toList := by
    rw [h, String.toList_append]
    exact List.mem_append_left _ (by decide)
  exact absurd (isDigit_of_mem_repr hminus) (by decide)

/-- Numbers are told apart by their texts. -/
theorem toString_injective {a b : Int} (h : ofString (toString a) = ofString (toString b)) :
    a = b := by
  rw [ofString_inj, Int.toString_eq_repr, Int.toString_eq_repr, Int.repr_eq_if,
    Int.repr_eq_if] at h
  split at h
  · split at h
    · have hsize := repr_inj h
      omega
    · exact absurd h (repr_ne_minus _ _)
  · split at h
    · exact absurd h.symm (repr_ne_minus _ _)
    · have hsize := repr_inj ((String.append_right_inj _).1 h)
      omega

end ProseGuard.Text
