import ProseGuard.Record.Value

/-!
# Values that are read

What the lenient readers take, and as what. Main statements: `natural_eq_valid_iff`, by which a
value is read as a natural number exactly if it counts as that, and `choice_eq_valid_iff`.
-/

namespace ProseGuard.Record

open Json (Binary64)

/-- The value counts as an integer: it is one, or a truth value, or a binary number without a
fraction that is a machine word, or a text that writes one. -/
inductive CountsAs : Json → Int → Prop
  | integer (number : Int) : CountsAs (.integer number) number
  | truth (value : Bool) : CountsAs (.bool value) (if value then 1 else 0)
  | binary {value : Binary64} {number : Int} : value.toInt? = some number →
      number.natAbs < wordBound → CountsAs (.number value) number
  | text {text : Text} {number : Int} : text.isWhole → integerOfText text = .valid number →
      CountsAs (.string text) number

/-- A binary number is read as the integer that it is, if that is a machine word. -/
theorem integerOfNumber_eq_valid_iff {value : Binary64} {number : Int} :
    integerOfNumber value = .valid number ↔
      value.toInt? = some number ∧ number.natAbs < wordBound := by
  cases value with
  | infinite | notANumber => exact iff_of_false (fun h => nomatch h) fun h => nomatch h.1
  | finite significand exponent =>
      rw [integerOfNumber]
      cases (Binary64.finite significand exponent).toInt? with
      | none => exact iff_of_false (fun h => nomatch h) fun h => nomatch h.1
      | some found =>
          dsimp only
          split
          · next hword =>
            rw [Checked.valid.injEq, Option.some.injEq]
            exact ⟨fun h => ⟨h, h ▸ hword⟩, And.left⟩
          · next hword =>
            refine iff_of_false (fun h => nomatch h) ?_
            rintro ⟨h, hnumber⟩
            obtain rfl := Option.some.inj h
            exact hword hnumber

/-- A text that must be whole is read exactly if it is whole and can be read. -/
theorem ofWhole_eq_valid_iff {α : Type} {read : Text → Checked α} {text : Text} {a : α} :
    ofWhole read text = .valid a ↔ text.isWhole ∧ read text = .valid a := by
  rw [ofWhole]
  split
  · next hwhole => exact (and_iff_right hwhole).symm
  · next hwhole => exact iff_of_false (fun h => nomatch h) fun h => hwhole h.1

/-- A value is read as the integer that it counts as. -/
theorem integer_eq_valid_iff {value : Json} {number : Int} :
    integer value = .valid number ↔ CountsAs value number := by
  constructor
  · intro h
    cases value with
    | integer found => exact Checked.valid.inj h ▸ .integer found
    | bool found => exact Checked.valid.inj h ▸ .truth found
    | number found =>
        obtain ⟨hfound, hword⟩ := integerOfNumber_eq_valid_iff.1 h
        exact .binary hfound hword
    | string text =>
        obtain ⟨hwhole, hread⟩ := ofWhole_eq_valid_iff.1 h
        exact .text hwhole hread
    | null | array _ | object _ => exact nomatch h
  · rintro (_ | _ | ⟨hfound, hword⟩ | ⟨hwhole, hread⟩)
    · rfl
    · rfl
    · exact integerOfNumber_eq_valid_iff.2 ⟨hfound, hword⟩
    · exact ofWhole_eq_valid_iff.2 ⟨hwhole, hread⟩

/-- A value is read as a natural number if it counts as that. -/
theorem natural_eq_valid_iff {value : Json} {number : Nat} :
    natural value = .valid number ↔ CountsAs value number := by
  rw [← integer_eq_valid_iff, natural]
  cases integer value with
  | invalid issues => simp
  | valid found =>
      simp only [Checked.valid.injEq]
      split
      · rw [Checked.valid.injEq]
        omega
      · simp only [Checked.flawed, reduceCtorEq, false_iff]
        omega

/-- Only a text is read as text. -/
theorem text_eq_valid_iff {value : Json} {found : Text} :
    text value = .valid found ↔ value = .string found := by
  cases value with
  | string other => simp [text]
  | _ => exact iff_of_false (fun h => nomatch h) fun h => nomatch h

/-- Only a text that is not empty and in which no half of a pair stands alone is read as such. -/
theorem nonEmptyText_eq_valid_iff {value : Json} {found : NonEmptyText} :
    nonEmptyText value = .valid found ↔ value = .string found.1 := by
  constructor
  · intro h
    cases value with
    | string other =>
        rw [nonEmptyText] at h
        split at h
        · split at h
          · exact nomatch h
          · rw [← Checked.valid.inj h]
        · exact nomatch h
    | _ => exact nomatch h
  · rintro rfl
    rw [nonEmptyText, dif_pos found.2.2, dif_neg found.2.1]

/-- What is found under a key stands there with it. -/
theorem mem_of_lookup_eq_some {α : Type} {entries : List (Text × α)} {key : Text} {a : α}
    (h : entries.lookup key = some a) : (key, a) ∈ entries := by
  obtain ⟨before, behind, rfl, -⟩ := List.lookup_eq_some_iff.1 h
  exact List.mem_append_right _ List.mem_cons_self

/-- Of several words, each the word for what it stands for, only that one is read as it. -/
theorem choice_eq_valid_iff {α : Type} {options : List (Text × α)} {word : α → Text}
    (hoptions : ∀ option ∈ options, option.1 = word option.2)
    (hword : ∀ a, options.lookup (word a) = some a) (hwhole : ∀ a, (word a).isWhole)
    {value : Json} {a : α} : choice options value = .valid a ↔ value = .string (word a) := by
  cases value with
  | string text =>
      have hchosen : choiceOfText options text = .valid a ↔ text = word a := by
        rw [choiceOfText]
        constructor
        · intro h
          cases hlookup : options.lookup text with
          | none =>
              rw [hlookup] at h
              exact nomatch h
          | some found =>
              rw [hlookup] at h
              rw [← Checked.valid.inj h]
              exact hoptions (text, found) (mem_of_lookup_eq_some hlookup)
        · rintro rfl
          rw [hword]
      rw [choice, ofWhole_eq_valid_iff, hchosen, Json.string.injEq]
      exact and_iff_right_of_imp fun h => h ▸ hwhole a
  | _ => exact iff_of_false (fun h => nomatch h) fun h => nomatch h

end ProseGuard.Record
