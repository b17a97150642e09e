import Mathlib.Data.List.Nodup
import ProseGuard.Candidate.Nearest

/-!
# What the nearest candidates are

The bound that a pass ends with is the smallest distance or the threshold, so a candidate is kept
exactly when it lies within the threshold and no other lies nearer (`mem_nearest`), and what is kept
are all candidates at the smallest distance (`nearest_eq_filter_min`). Raising the threshold
therefore changes a choice only where there was none (`nearest_of_raised`).
-/

namespace ProseGuard.Candidate

variable {α : Type} {distance : α → Nat} {threshold : Int} {candidates : List α}

/-- No candidate is nearer than the bound that a pass ends with. -/
theorem reach_le_of_mem {a : α} (h : a ∈ candidates) :
    reach distance threshold candidates ≤ distance a := by
  induction candidates generalizing threshold with
  | nil => exact absurd h List.not_mem_nil
  | cons b bs ih =>
      rcases List.mem_cons.1 h with rfl | h
      · exact Int.le_trans (reach_le distance _ bs) (Int.min_le_right ..)
      · exact ih h

/-- The bound that a pass ends with is the threshold or the distance of a candidate. -/
theorem reach_eq_or (distance : α → Nat) (threshold : Int) (candidates : List α) :
    reach distance threshold candidates = threshold ∨
      ∃ a ∈ candidates, reach distance threshold candidates = distance a := by
  induction candidates generalizing threshold with
  | nil => exact .inl rfl
  | cons b bs ih =>
      have hstep : reach distance threshold (b :: bs) =
        reach distance (min threshold (distance b)) bs := rfl
      rw [hstep]
      rcases ih (min threshold (distance b)) with h | ⟨a, ha, h⟩
      · rcases Int.le_total threshold (distance b) with hle | hle
        · exact .inl (by omega)
        · exact .inr ⟨b, List.mem_cons_self, by omega⟩
      · exact .inr ⟨a, List.mem_cons_of_mem _ ha, h⟩

/-- A candidate is at the final bound exactly when it is within the threshold and none is nearer. -/
theorem eq_reach_iff {a : α} (h : a ∈ candidates) :
    (distance a : Int) = reach distance threshold candidates ↔
      distance a ≤ threshold ∧ ∀ b ∈ candidates, distance a ≤ distance b := by
  constructor
  · intro heq
    refine ⟨heq ▸ reach_le .., fun b hb => ?_⟩
    have hbound : reach distance threshold candidates ≤ distance b := reach_le_of_mem hb
    omega
  · rintro ⟨hle, hmin⟩
    have hbound : reach distance threshold candidates ≤ distance a := reach_le_of_mem h
    rcases reach_eq_or distance threshold candidates with hreach | ⟨b, hb, hreach⟩
    · omega
    · have := hmin b hb
      omega

/-- The nearest candidates are those within the threshold that no other is nearer than. -/
theorem mem_nearest {a : α} :
    a ∈ nearest distance threshold candidates ↔
      a ∈ candidates ∧ distance a ≤ threshold ∧ ∀ b ∈ candidates, distance a ≤ distance b := by
  rw [nearest_eq, List.mem_filter, decide_eq_true_eq]
  exact and_congr_right eq_reach_iff

/-- The bound that a pass ends with is the smaller one of the threshold and the smallest
distance. -/
theorem reach_eq_min {smallest : Nat} (hmem : smallest ∈ candidates.map distance)
    (hleast : ∀ d ∈ candidates.map distance, smallest ≤ d) :
    reach distance threshold candidates = min threshold smallest := by
  obtain ⟨a, ha, rfl⟩ := List.mem_map.1 hmem
  have hthreshold := reach_le distance threshold candidates
  have hbound : reach distance threshold candidates ≤ distance a := reach_le_of_mem ha
  rcases reach_eq_or distance threshold candidates with hreach | ⟨b, hb, hreach⟩
  · omega
  · have := hleast (distance b) (List.mem_map_of_mem hb)
    omega

/-- The nearest candidates are those at the smallest distance, as far as the threshold reaches
that far. -/
theorem nearest_eq_filter_min (distance : α → Nat) (threshold : Int) (candidates : List α) :
    nearest distance threshold candidates =
      match (candidates.map distance).min? with
      | some smallest =>
        if smallest ≤ threshold then candidates.filter fun a => distance a = smallest else []
      | none => [] := by
  rw [nearest_eq]
  split
  · next smallest hsmallest =>
      obtain ⟨hmem, hleast⟩ := List.min?_eq_some_iff.1 hsmallest
      rw [reach_eq_min hmem hleast]
      split
      · next hle =>
          rw [Int.min_eq_right hle]
          simp only [Int.natCast_inj]
      · next hlt =>
          refine List.filter_eq_nil_iff.2 fun a ha => ?_
          have := hleast (distance a) (List.mem_map_of_mem ha)
          rw [decide_eq_true_eq]
          omega
  · next hnone =>
      rw [List.min?_eq_none_iff, List.map_eq_nil_iff] at hnone
      rw [hnone, List.filter_nil]

/-- A higher threshold leaves a choice that is not empty as it is. -/
theorem nearest_of_raised {raised : Int} (hle : threshold ≤ raised)
    (hne : nearest distance threshold candidates ≠ []) :
    nearest distance raised candidates = nearest distance threshold candidates := by
  obtain ⟨a, ha⟩ := List.exists_mem_of_ne_nil _ hne
  obtain ⟨hmem, hwithin, hmin⟩ := mem_nearest.1 ha
  rw [nearest_eq, nearest_eq]
  -- whoever has no nearer candidate is as near as `a`, hence within both thresholds
  refine List.filter_congr fun b hb => decide_eq_decide.2 ?_
  rw [eq_reach_iff hb, eq_reach_iff hb]
  refine and_congr_left fun hbmin => ⟨fun _ => ?_, fun h => Int.le_trans h hle⟩
  have := hbmin a hmem
  omega

/-- A candidate that alone is at distance zero is the nearest one. -/
theorem nearest_eq_singleton {e : α} (hnodup : candidates.Nodup) (hmem : e ∈ candidates)
    (hzero : distance e = 0) (honly : ∀ a ∈ candidates, distance a = 0 → a = e)
    (hthreshold : 0 ≤ threshold) : nearest distance threshold candidates = [e] := by
  have hiff : ∀ a, a ∈ nearest distance threshold candidates ↔ a ∈ [e] := by
    intro a
    rw [mem_nearest, List.mem_singleton]
    constructor
    · rintro ⟨ha, -, hmin⟩
      have := hmin e hmem
      exact honly a ha (by omega)
    · rintro rfl
      exact ⟨hmem, by omega, fun b _ => by omega⟩
  have hsub : (nearest distance threshold candidates).Nodup := by
    rw [nearest_eq]
    exact hnodup.filter _
  exact List.perm_singleton.1 ((List.perm_ext_iff_of_nodup hsub (List.nodup_singleton e)).2 hiff)

end ProseGuard.Candidate
