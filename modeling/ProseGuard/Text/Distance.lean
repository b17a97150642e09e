import ProseGuard.Text.Basic

/-!
# Edit distance

The number of single-character insertions, deletions and substitutions between two texts, from
rows of the distances to the suffixes of one of them.
Main statements: `distanceRow_eq`, which says that a row holds the distances given by the plain
recursion `editDistance`; `distance_eq`; and `distance_eq_zero_iff`, by which only a text itself is
at no distance from it.

Specification 2, the edit distance: `levenshtein` is `distance`.
-/

namespace ProseGuard.Text

/-- The distances from `c :: cs` to the suffixes of a text, longest first, given those from
`cs`. -/
def nextRow (c : Point) : Text → List Nat → List Nat
  | d :: ds, keep :: row =>
    let rest := nextRow c ds row
    min (min (keep + 1) (rest.headD 0 + 1)) (row.headD 0 + if c = d then 0 else 1) :: rest
  | _, row => row.map (· + 1)

/-- The distances from a text to the suffixes of another, longest first. -/
def distanceRow (target : Text) : Text → List Nat
  | [] => (List.range (target.length + 1)).reverse
  | c :: cs => nextRow c target (distanceRow target cs)

/-- The edit distance between two texts. -/
def distance (source target : Text) : Nat :=
  (distanceRow target source).headD 0

/-- The edit distance by recursion on what happens to the first characters. -/
def editDistance : Text → Text → Nat
  | [], target => target.length
  | source, [] => source.length
  | c :: cs, d :: ds =>
    min (min (editDistance cs (d :: ds) + 1) (editDistance (c :: cs) ds + 1))
      (editDistance cs ds + if c = d then 0 else 1)
termination_by source target => source.length + target.length

/-- The suffixes of a text, longest first. -/
def suffixes : Text → List Text
  | [] => [[]]
  | c :: cs => (c :: cs) :: suffixes cs

theorem editDistance_nil_right (source : Text) : editDistance source [] = source.length := by
  cases source <;> simp [editDistance]

theorem nextRow_eq (c : Point) (cs target : Text) :
    nextRow c target ((suffixes target).map (editDistance cs)) =
      (suffixes target).map (editDistance (c :: cs)) := by
  induction target with
  | nil => simp [suffixes, nextRow, editDistance_nil_right]
  | cons d ds ih =>
    simp only [suffixes, List.map_cons, nextRow, ih]
    cases ds <;> simp [suffixes, editDistance]

theorem reverse_range_eq (target : Text) :
    (List.range (target.length + 1)).reverse = (suffixes target).map (editDistance []) := by
  induction target with
  | nil => simp [suffixes, editDistance]
  | cons d ds ih => rw [List.length_cons, List.range_succ]; simp [suffixes, editDistance, ih]

/-- A row holds the distances to the suffixes. -/
theorem distanceRow_eq (source target : Text) :
    distanceRow target source = (suffixes target).map (editDistance source) := by
  induction source with
  | nil => exact reverse_range_eq target
  | cons c cs ih => rw [distanceRow, ih, nextRow_eq]

/-- The rows compute the plain recursion. -/
theorem distance_eq (source target : Text) :
    distance source target = editDistance source target := by
  rw [distance, distanceRow_eq]
  cases target <;> rfl

/-- The plain recursion yields zero only for a text and itself. -/
theorem editDistance_eq_zero_iff {source target : Text} :
    editDistance source target = 0 ↔ source = target := by
  fun_induction editDistance source target with
  | case1 target => rw [List.length_eq_zero_iff, eq_comm]
  | case2 source hsource => rw [List.length_eq_zero_iff]
  | case3 c cs d ds hdelete hinsert hkeep =>
      -- a deletion or an insertion costs one, so only keeping the first characters is left
      rw [List.cons.injEq, ← hkeep]
      by_cases h : c = d
      · simp only [h, if_true, true_and]
        omega
      · simp only [h, if_false, false_and, iff_false]
        omega

/-- Only a text itself is at no distance from it. -/
theorem distance_eq_zero_iff {source target : Text} :
    distance source target = 0 ↔ source = target := by
  rw [distance_eq, editDistance_eq_zero_iff]

end ProseGuard.Text
