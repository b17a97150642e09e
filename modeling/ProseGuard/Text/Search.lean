import ProseGuard.Text.Basic

/-!
# Searching and replacing

Occurrences of a pattern in a text, and the leftmost place where a reader of text succeeds.
Main statements: `after?_eq_some_iff`, `replaceAll_of_not_occurs` (where the pattern does not
occur nothing changes) and `firstMatch_eq_some_iff` (the leftmost success is found).
-/

namespace ProseGuard.Text

/-- What follows `start` in a text that begins with it. -/
def after? : Text → Text → Option (Text)
  | [], text => some text
  | _ :: _, [] => none
  | p :: ps, c :: cs => if p = c then after? ps cs else none

/-- Whether the pattern occurs somewhere in the text. -/
def occurs (pattern : Text) : Text → Bool
  | [] => pattern.isEmpty
  | c :: cs => pattern.isPrefixOf (c :: cs) || occurs pattern cs

/-- Passes over `skip` characters, then replaces every occurrence of a pattern that is not
empty. -/
def replaceFrom (pattern replacement : Text) : Nat → Text → Text
  | _, [] => []
  | skip + 1, _ :: cs => replaceFrom pattern replacement skip cs
  | 0, c :: cs =>
    if pattern.isPrefixOf (c :: cs) then
      replacement ++ replaceFrom pattern replacement (pattern.length - 1) cs
    else c :: replaceFrom pattern replacement 0 cs

/-- Replaces the occurrences of a pattern that is not empty, from left to right and without
overlap. -/
def replaceAll (pattern replacement text : Text) : Text :=
  replaceFrom pattern replacement 0 text

/-- The result of a reader at the leftmost place where it succeeds. The reader sees the text
before the place, last character first, and the text from there on. -/
def firstMatch {α : Type} (read : Text → Text → Option α) :
    Text → Text → Option α
  | before, [] => read before []
  | before, c :: cs =>
    match read before (c :: cs) with
    | some found => some found
    | none => firstMatch read (c :: before) cs

/-- Reading off a start undoes writing it. -/
theorem after?_eq_some_iff {start text rest : Text} :
    after? start text = some rest ↔ text = start ++ rest := by
  fun_induction after? start text with
  | case1 text => simp [eq_comm]
  | case2 => simp
  | case3 p ps cs ih => simp [ih]
  | case4 p ps c cs hne => simp [Ne.symm hne]

/-- A text without the pattern stays as it is. -/
theorem replaceAll_of_not_occurs {pattern replacement text : Text}
    (h : occurs pattern text = false) : replaceAll pattern replacement text = text := by
  unfold replaceAll
  induction text with
  | nil => rfl
  | cons c cs ih =>
    simp only [occurs, Bool.or_eq_false_iff] at h
    simp [replaceFrom, h.1, ih h.2]

/-- A match is found exactly at a place where the reader succeeds while it fails at every place
to the left. -/
theorem firstMatch_eq_some_iff {α : Type} {read : Text → Text → Option α}
    {before text : Text} {found : α} :
    firstMatch read before text = some found ↔
      ∃ passed rest, text = passed ++ rest ∧ read (passed.reverse ++ before) rest = some found ∧
        ∀ left right, passed = left ++ right → right ≠ [] →
          read (left.reverse ++ before) (right ++ rest) = none := by
  fun_induction firstMatch read before text with
  | case1 before =>
    constructor
    · intro h
      exact ⟨[], [], rfl, by simpa using h, fun left right hp hr => by simp_all⟩
    · rintro ⟨passed, rest, htext, hread, -⟩
      obtain ⟨rfl, rfl⟩ := List.append_eq_nil_iff.1 htext.symm
      simpa using hread
  | case2 before c cs first hread =>
    constructor
    · rintro ⟨⟩
      exact ⟨[], c :: cs, rfl, by simpa using hread, fun left right hp hr => by simp_all⟩
    · rintro ⟨passed, rest, htext, hfound, hleft⟩
      cases passed with
      | nil => simp_all
      | cons d ds =>
        have := hleft [] (d :: ds) rfl (by simp)
        simp_all
  | case3 before c cs hnone ih =>
    rw [ih]
    constructor
    · rintro ⟨passed, rest, rfl, hread, hleft⟩
      refine ⟨c :: passed, rest, rfl, by simpa using hread, fun left right hp hr => ?_⟩
      cases left with
      | nil =>
        obtain rfl : right = c :: passed := by simpa using hp.symm
        simpa using hnone
      | cons d ds =>
        obtain ⟨rfl, rfl⟩ : c = d ∧ passed = ds ++ right := by simpa using hp
        simpa using hleft ds right rfl hr
    · rintro ⟨passed, rest, htext, hread, hleft⟩
      cases passed with
      | nil => simp_all
      | cons d ds =>
        obtain ⟨rfl, rfl⟩ : c = d ∧ cs = ds ++ rest := by simpa using htext
        refine ⟨ds, rest, rfl, by simpa using hread, fun left right hp hr => ?_⟩
        simpa using hleft (c :: left) right (by simp [hp]) hr

end ProseGuard.Text
