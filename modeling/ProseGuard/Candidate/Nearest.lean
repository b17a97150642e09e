/-!
# The nearest candidates

One pass over a list keeps the candidates at the smallest distance met so far, as far as it does
not exceed a threshold. Main statement: `nearest_eq`, by which what is kept are exactly the
candidates at the smallest distance of all.

Specification 2, minimum-distance filtering: `closest` is `nearest`.
-/

namespace ProseGuard.Candidate

variable {α : Type}

/-- The smallest distance so far and the candidates at it. -/
structure Front (α : Type) where
  bound : Int
  kept : List α

/-- Takes one more candidate into account. -/
def Front.offer (distance : α → Nat) (front : Front α) (candidate : α) : Front α :=
  let d : Int := distance candidate
  if d < front.bound then ⟨d, [candidate]⟩
  else if d = front.bound then { front with kept := front.kept ++ [candidate] }
  else front

/-- The candidates at the smallest distance, in order, if that is at most the threshold. -/
def nearest (distance : α → Nat) (threshold : Int) (candidates : List α) : List α :=
  (candidates.foldl (Front.offer distance) ⟨threshold, []⟩).kept

/-- The smallest distance of a candidate and the threshold. -/
def reach (distance : α → Nat) (threshold : Int) (candidates : List α) : Int :=
  candidates.foldl (fun bound candidate => min bound (distance candidate)) threshold

theorem reach_le (distance : α → Nat) (threshold : Int) (candidates : List α) :
    reach distance threshold candidates ≤ threshold := by
  induction candidates generalizing threshold with
  | nil => exact Int.le_refl _
  | cons a as ih => exact Int.le_trans (ih _) (Int.min_le_left ..)

/-- A pass ends with the candidates at the smallest distance; those kept before it stay if no
smaller distance was met. -/
theorem foldl_offer_kept (distance : α → Nat) (candidates : List α) (front : Front α) :
    (candidates.foldl (Front.offer distance) front).kept =
      (if reach distance front.bound candidates = front.bound then front.kept else []) ++
        candidates.filter fun a =>
          (distance a : Int) = reach distance front.bound candidates := by
  induction candidates generalizing front with
  | nil => simp [reach]
  | cons a as ih =>
    have hstep : reach distance front.bound (a :: as) =
        reach distance (min front.bound (distance a)) as := rfl
    rw [List.foldl_cons, ih, hstep, List.filter_cons]
    simp only [Front.offer]
    split
    · next hlt =>
      have hmin : min front.bound (distance a : Int) = distance a := by omega
      have hle := reach_le distance (distance a : Int) as
      rw [hmin, if_neg (by omega : ¬ reach distance (distance a : Int) as = front.bound)]
      by_cases h : (distance a : Int) = reach distance (distance a : Int) as
      · simp [← h]
      · simp [h, Ne.symm h]
    · split
      · next heq =>
        have hmin : min front.bound (distance a : Int) = front.bound := by omega
        rw [hmin]
        by_cases h : reach distance front.bound as = front.bound
        · simp [h, heq]
        · simp [h, heq, Ne.symm h]
      · next hlt hne =>
        have hmin : min front.bound (distance a : Int) = front.bound := by omega
        have hle := reach_le distance front.bound as
        rw [hmin]
        have : ¬ (distance a : Int) = reach distance front.bound as := by omega
        simp [this]

/-- What is kept are the candidates at the smallest distance. -/
theorem nearest_eq (distance : α → Nat) (threshold : Int) (candidates : List α) :
    nearest distance threshold candidates =
      candidates.filter fun a => (distance a : Int) = reach distance threshold candidates := by
  simp [nearest, foldl_offer_kept]

end ProseGuard.Candidate
