import Mathlib.Data.List.Nodup
import ProseGuard.Candidate.Element

/-!
# The words of an element

Main statements: `Element.distance_eq_zero_iff`, by which an element stands at no distance from the
texts that are, case aside, among its words, and from no other; `wordSet_eq_of_mem_iff`, by which a
set of words tells nothing of the order in which they were met.
-/

namespace ProseGuard.Candidate

/-- An element stands at no distance from a text exactly when it has the text, case aside, as a
word. -/
theorem Element.distance_eq_zero_iff {e : Element} {text : Text} :
    e.distance text = 0 ↔ ∃ word ∈ e.identifiers, Text.lower word = Text.lower text := by
  unfold distance
  cases hmin : (e.identifiers.map fun word =>
      Text.distance (Text.lower word) (Text.lower text)).min? with
  | none =>
      have hnil : e.identifiers = [] := by simpa using hmin
      simp [hnil, farthest]
  | some least =>
      obtain ⟨hmem, hleast⟩ := List.min?_eq_some_iff.1 hmin
      simp only [hmin, Option.getD_some]
      constructor
      · rintro rfl
        obtain ⟨word, hword, hzero⟩ := List.mem_map.1 hmem
        exact ⟨word, hword, Text.distance_eq_zero_iff.1 hzero⟩
      · rintro ⟨word, hword, heq⟩
        have := hleast _ (List.mem_map_of_mem hword)
        rw [Text.distance_eq_zero_iff.2 heq] at this
        omega

/-- A word is put in its place. -/
theorem ascending_insertWord {word : Text} {ws : List Text} (h : ws.Pairwise (· < ·)) :
    (insertWord word ws).Pairwise (· < ·) := by
  induction ws with
  | nil => exact List.pairwise_singleton _ _
  | cons w ws ih =>
      obtain ⟨hfirst, hrest⟩ := List.pairwise_cons.1 h
      rw [insertWord]
      split
      · next hlt =>
        refine List.pairwise_cons.2 ⟨fun v hv => ?_, h⟩
        rcases List.mem_cons.1 hv with rfl | hv
        · exact hlt
        · exact List.lt_trans hlt (hfirst v hv)
      · split
        · exact h
        · next hnot hne =>
          refine List.pairwise_cons.2 ⟨fun v hv => ?_, ih hrest⟩
          rcases mem_insertWord.1 hv with rfl | hv
          · exact Decidable.byContradiction fun hgt => hne (Text.eq_of_not_lt hnot hgt)
          · exact hfirst v hv

/-- The words of a set stand in ascending order. -/
theorem ascending_wordSet (ws : List Text) : (wordSet ws).Pairwise (· < ·) := by
  induction ws with
  | nil => exact .nil
  | cons w ws ih => exact ascending_insertWord ih

/-- Lists of the same words make the same set. -/
theorem wordSet_eq_of_mem_iff {ws vs : List Text} (h : ∀ w, w ∈ ws ↔ w ∈ vs) :
    wordSet ws = wordSet vs := by
  have hnodup : ∀ us, (wordSet us).Nodup := by
    intro us
    refine (ascending_wordSet us).imp fun {a b} hlt => ?_
    rintro rfl
    exact List.lt_irrefl a hlt
  -- a list in ascending order is determined by its members
  refine List.Perm.eq_of_pairwise (fun v w _ _ hvw hwv => absurd hwv (List.lt_asymm hvw))
    (ascending_wordSet ws) (ascending_wordSet vs)
    ((List.perm_ext_iff_of_nodup (hnodup ws) (hnodup vs)).2 fun w => ?_)
  rw [mem_wordSet, mem_wordSet, h]

end ProseGuard.Candidate
