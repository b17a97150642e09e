import ProseGuard.Text.Point

/-!
# Text

Text is a list of points. A string of characters is a text, and so is every string literal where a
text is expected. Main statements: `Text.ofString_inj` and `Text.toString?_ofString`, by which a
string and its text determine each other; texts are ordered point by point (`Text.eq_of_not_lt`).
-/

namespace ProseGuard

/-- A text: the points it consists of, in order. -/
abbrev Text := List Point

namespace Text

/-- The text of a string. -/
def ofString (s : String) : Text :=
  s.toList.map .char

instance : Coe String Text := ⟨ofString⟩

/-- The string of a text in which no half of a surrogate pair stands. -/
def toString? (text : Text) : Option String :=
  (text.mapM Point.char?).map .ofList

/-- The text with a replacement character for every half of a surrogate pair. -/
def shown (text : Text) : String :=
  .ofList (text.map fun p => p.char?.getD '\uFFFD')

/-- Whether no half of a surrogate pair stands in the text. -/
def isWhole (text : Text) : Bool :=
  !text.any Point.isHalf

/-- The texts one after the other, a separator between them. -/
def join (separator : Text) (texts : List Text) : Text :=
  separator.intercalate texts

@[simp] theorem ofString_empty : ofString "" = [] := rfl

/-- Strings of one text are the same. -/
@[simp] theorem ofString_inj {s t : String} : ofString s = ofString t ↔ s = t := by
  rw [ofString, ofString, List.map_inj_right (by simp)]
  exact String.toList_inj

@[simp] theorem ofString_beq (s t : String) : (ofString s == ofString t) = (s == t) := by
  rw [Bool.eq_iff_iff]
  simp

/-- The text of a string has that string. -/
@[simp] theorem toString?_ofString (s : String) : (ofString s).toString? = some s := by
  have hmap : ∀ cs : List Char, (cs.map Point.char).mapM Point.char? = some cs := by
    intro cs
    induction cs with
    | nil => rfl
    | cons c cs ih => simp [List.mapM_cons, ih]
  simp [toString?, ofString, hmap]

/-- The text of a string is whole. -/
@[simp] theorem isWhole_ofString (s : String) : (ofString s).isWhole = true := by
  simp [isWhole, ofString, Point.isHalf, Function.comp_def]

/-- A whole text is shown as it is. -/
theorem ofString_shown {text : Text} (h : text.isWhole) : ofString text.shown = text := by
  rw [ofString, shown, String.toList_ofList, List.map_map]
  refine (List.map_congr_left fun p hp => ?_).trans (List.map_id text)
  cases p with
  | char c => rfl
  | half index =>
      have hnone : text.any Point.isHalf = false := by
        simpa [isWhole] using h
      exact absurd (List.any_eq_true.2 ⟨_, hp, rfl⟩) (Bool.eq_false_iff.1 hnone)

/-- Of two different texts, one comes first. -/
theorem eq_of_not_lt {a b : Text} (hab : ¬ a < b) (hba : ¬ b < a) : a = b :=
  List.le_antisymm hba hab

end Text

end ProseGuard
