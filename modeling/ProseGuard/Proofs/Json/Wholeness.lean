import ProseGuard.Json.Printer

/-!
# Halves of surrogate pairs in written JSON

Over several lines a character stands for itself, so that half of a surrogate pair stands in what is
written where it stands in the value. Main statement: `isWhole_indented`, by which the text of a
value is whole exactly when no broken text is a string or a name in it.
-/

namespace ProseGuard

namespace Text

theorem isWhole_iff {text : Text} : text.isWhole ↔ ∀ c ∈ text, c.isHalf = false := by
  simp [isWhole]

theorem isWhole_append (a b : Text) : (a ++ b).isWhole = (a.isWhole && b.isWhole) := by
  simp [isWhole]

theorem isWhole_cons (c : Point) (text : Text) :
    isWhole (c :: text) = (!c.isHalf && text.isWhole) := by
  simp [isWhole]

/-- What consists of the points of a whole text is whole. -/
theorem isWhole_of_subset {a b : Text} (h : a ⊆ b) (hb : b.isWhole) : a.isWhole :=
  isWhole_iff.2 fun c hc => isWhole_iff.1 hb c (h hc)

/-- Between whole separators it is the texts that count. -/
theorem isWhole_join {separator : Text} (h : separator.isWhole) (texts : List Text) :
    (join separator texts).isWhole = texts.all isWhole := by
  induction texts with
  | nil => rfl
  | cons text texts ih =>
      cases texts with
      | nil => simp [join, List.intercalate_singleton]
      | cons next rest =>
          rw [join, List.intercalate_cons_cons, isWhole_append, isWhole_append, h, Bool.and_true,
            List.all_cons, ← ih]
          rfl

/-- Hexadecimal digits are characters. -/
theorem isWhole_hexDigits (width n : Nat) : (hexDigits width n).isWhole := by
  have hdigit : ∀ digit : Fin 16, (hexDigit digit).isHalf = false := by
    decide
  induction width generalizing n with
  | zero => rfl
  | succ width ih =>
      rw [hexDigits, isWhole_append, ih, isWhole_cons, hdigit ⟨n % 16, Nat.mod_lt n (by decide)⟩]
      rfl

end Text

namespace Json

open Text (isWhole_append isWhole_cons isWhole_iff isWhole_join isWhole_ofString)

theorem isWhole_unitEscapes (c : Point) : (unitEscapes c).isWhole := by
  refine isWhole_iff.2 fun p hp => ?_
  obtain ⟨unit, -, hunit⟩ := List.mem_flatMap.1 hp
  have hwhole : ("\\u" ++ Text.hexDigits 4 unit : Text).isWhole := by
    rw [isWhole_append, isWhole_ofString, Text.isWhole_hexDigits]
    rfl
  exact isWhole_iff.1 hwhole p hunit

/-- A point is written whole exactly if it is no half. -/
theorem isWhole_stringPoint (c : Point) : (stringPoint false c).isWhole = !c.isHalf := by
  cases c with
  | half index =>
      have hlarge : ¬ (Point.half index).toNat < 0x20 := by
        simp only [Point.toNat, Point.firstHalf]
        omega
      simp [stringPoint, hlarge, Text.isWhole]
  | char c =>
      have hkept : Text.isWhole [.char c] := rfl
      have hescaped : Text.isWhole ['\\', .char c] := rfl
      simp [stringPoint, apply_ite Text.isWhole, isWhole_unitEscapes, hkept, hescaped, Point.isHalf]

/-- A string is written whole exactly if its text is whole. -/
theorem isWhole_stringLiteral (text : Text) :
    (stringLiteral false text).isWhole = text.isWhole := by
  have hpoints : Text.isWhole (text.flatMap (stringPoint false)) = text.isWhole := by
    induction text with
    | nil => rfl
    | cons c cs ih =>
        rw [List.flatMap_cons, isWhole_append, isWhole_stringPoint, ih, isWhole_cons]
  rw [stringLiteral, isWhole_append, isWhole_append, hpoints, isWhole_ofString, Bool.true_and,
    Bool.and_true]

/-- Numbers are written in characters. -/
theorem isWhole_numberLiteral (value : Binary64) : (numberLiteral value).isWhole := by
  cases value with
  | infinite => rfl
  | notANumber => rfl
  | finite significand exponent =>
      have hsign : Text.isWhole (if significand < 0 then "-" else "") := by
        split <;> rfl
      simp only [numberLiteral]
      split
      · simp only [isWhole_append, isWhole_ofString, hsign, Bool.and_true]
      · have hzeros (n : Nat) : Text.isWhole (List.replicate n (.char '0')) :=
          isWhole_iff.2 fun c hc => List.eq_of_mem_replicate hc ▸ rfl
        have hpadded (n : Nat) (digits : String) :
            Text.isWhole (List.replicate n (.char '0') ++ Text.ofString digits) := by
          rw [isWhole_append, hzeros, isWhole_ofString]
          rfl
        have htake {text : Text} (h : text.isWhole) (n : Nat) : Text.isWhole (text.take n) :=
          Text.isWhole_of_subset (List.take_subset n text) h
        have hdrop {text : Text} (h : text.isWhole) (n : Nat) : Text.isWhole (text.drop n) :=
          Text.isWhole_of_subset (List.drop_subset n text) h
        simp only [isWhole_append, isWhole_ofString, hsign, htake (hpadded _ _),
          hdrop (hpadded _ _), Bool.and_true]

theorem isWhole_newline (depth : Nat) : (newline depth).isWhole :=
  isWhole_iff.2 fun c hc => by
    rcases List.mem_cons.1 hc with rfl | hc
    · rfl
    · rw [List.eq_of_mem_replicate hc]
      rfl

/-- Between brackets it is the lines that count. -/
theorem isWhole_block {depth : Nat} {opening closing : Text} (hopening : opening.isWhole)
    (hclosing : closing.isWhole) (lines : List Text) :
    (block depth opening closing lines).isWhole = lines.all Text.isWhole := by
  rw [block]
  split
  · next h =>
      rw [List.isEmpty_iff.1 h, isWhole_append, hopening, hclosing]
      rfl
  · have hseparator : Text.isWhole ("," ++ newline (depth + 1)) := by
      rw [isWhole_append, isWhole_newline, isWhole_ofString]
      rfl
    simp only [isWhole_append, isWhole_newline, isWhole_join hseparator, hopening, hclosing,
      Bool.true_and, Bool.and_true]

mutual

/-- A value is written whole exactly if nothing in it is broken. -/
theorem isWhole_indentedAt (depth : Nat) :
    ∀ value : Json, (indentedAt depth value).isWhole = !value.isBroken
  | .null => rfl
  | .bool true => rfl
  | .bool false => rfl
  | .integer value => by
      rw [indentedAt, integerLiteral, isWhole_ofString]
      rfl
  | .number value => by
      rw [indentedAt, isWhole_numberLiteral]
      rfl
  | .string text => by
      rw [indentedAt, isWhole_stringLiteral, isBroken, holds, Bool.not_not]
  | .array items => by
      rw [indentedAt, isWhole_block (isWhole_ofString _) (isWhole_ofString _),
        all_isWhole_indentedItems (depth + 1) items]
      rfl
  | .object members => by
      rw [indentedAt, isWhole_block (isWhole_ofString _) (isWhole_ofString _),
        all_isWhole_indentedMembers (depth + 1) members]
      rfl

theorem all_isWhole_indentedItems (depth : Nat) : ∀ items : List Json,
    (indentedItems depth items).all Text.isWhole =
      !holdsItem (fun _ => false) (fun text => !text.isWhole) items
  | [] => rfl
  | item :: items => by
      rw [indentedItems, List.all_cons, isWhole_indentedAt depth item,
        all_isWhole_indentedItems depth items, holdsItem, Bool.not_or]
      rfl

theorem all_isWhole_indentedMembers (depth : Nat) : ∀ members : Members,
    (indentedMembers depth members).all Text.isWhole =
      !holdsMember (fun _ => false) (fun text => !text.isWhole) members
  | [] => rfl
  | (key, value) :: members => by
      rw [indentedMembers, List.all_cons, isWhole_append, isWhole_append,
        isWhole_stringLiteral, isWhole_ofString, isWhole_indentedAt depth value,
        all_isWhole_indentedMembers depth members, holdsMember, Bool.not_or, Bool.not_or]
      simp [isBroken]

end

/-- The text of a value over several lines is whole exactly if nothing in the value is broken. -/
theorem isWhole_indented (value : Json) : value.indented.isWhole = !value.isBroken :=
  isWhole_indentedAt 0 value

end Json

end ProseGuard
