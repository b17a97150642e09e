import ProseGuard.Text.Basic

/-!
# Blanks

White space of every script: the blanks of the Unicode character database and the four
information separators. Text is split into words at blanks and trimmed of them at its ends.
Main statements: `mem_words_ne_nil`, by which splitting yields no empty word, and
`flatten_splitWhere`, which says what splitting leaves out.
-/

namespace ProseGuard.Text

/-- Bounds of the ranges of blanks. -/
def blanks : List Nat := [
  0x9, 0xE, 0x1C, 0x21, 0x85, 0x86, 0xA0, 0xA1, 0x1680, 0x1681, 0x2000, 0x200B, 0x2028, 0x202A,
  0x202F, 0x2030, 0x205F, 0x2060, 0x3000, 0x3001]

/-- A character that separates words. -/
def isBlank (c : Point) : Bool :=
  within blanks c

/-- A blank other than the four information separators; such blanks may surround a number. -/
def isWhiteSpace (c : Point) : Bool :=
  isBlank c && !(0x1C ≤ c.toNat && c.toNat ≤ 0x1F)

/-- The text without the leading and trailing characters that `p` holds of. -/
def trimWhere (p : Point → Bool) (text : Text) : Text :=
  ((text.dropWhile p).reverse.dropWhile p).reverse

/-- The text without the leading and trailing characters among `marks`. -/
def trimMarks (marks text : Text) : Text :=
  trimWhere marks.contains text

/-- The text without leading and trailing blanks. -/
def trimmed (text : Text) : Text :=
  trimWhere isBlank text

/-- The pieces of a list between the items that `p` holds of, empty ones kept. -/
def splitWhere {α : Type} (p : α → Bool) : List α → List (List α)
  | [] => [[]]
  | a :: as =>
    if p a then [] :: splitWhere p as
    else match splitWhere p as with
      | [] => [[a]]
      | piece :: pieces => (a :: piece) :: pieces

/-- The words of a text: the maximal runs of characters that are not blank. -/
def words (text : Text) : List Text :=
  (splitWhere isBlank text).filter fun piece => !piece.isEmpty

/-- There is always a first piece. -/
theorem splitWhere_ne_nil {α : Type} (p : α → Bool) (as : List α) : splitWhere p as ≠ [] := by
  cases as with
  | nil => simp [splitWhere]
  | cons a as =>
    simp only [splitWhere]
    split
    · simp
    · split <;> simp

/-- The pieces hold, in order, the items that `p` does not hold of. -/
theorem flatten_splitWhere {α : Type} (p : α → Bool) (as : List α) :
    (splitWhere p as).flatten = as.filter fun a => !p a := by
  induction as with
  | nil => rfl
  | cons a as ih =>
    by_cases h : p a
    · simp [splitWhere, h, ih]
    · simp only [splitWhere, h]
      cases hs : splitWhere p as with
      | nil => exact absurd hs (splitWhere_ne_nil p as)
      | cons piece pieces => simp_all

/-- A word is never empty. -/
theorem mem_words_ne_nil {text word : Text} (h : word ∈ words text) : word ≠ [] := by
  simp only [words, List.mem_filter] at h
  rintro rfl
  simp at h

end ProseGuard.Text
