import Mathlib.Order.Bounds.Defs
import ProseGuard.Text.Distance

/-!
# Edits

What the distance between two texts measures. One edit changes it by one at most
(`Edit.editDistance_le`), and it can be run through edit by edit (`edits_editDistance`). Main
statement: `isLeast_distance`, by which the distance is the length of the shortest chain of edits;
`distance_comm` and `distance_triangle` follow.
-/

namespace ProseGuard.Text

/-- One point is inserted, deleted or put in the place of another. -/
inductive Edit : Text → Text → Prop where
  | insert (before after : Text) (c : Point) : Edit (before ++ after) (before ++ c :: after)
  | delete (before after : Text) (c : Point) : Edit (before ++ c :: after) (before ++ after)
  | substitute (before after : Text) (c d : Point) :
      Edit (before ++ c :: after) (before ++ d :: after)

/-- A chain of so many edits leads from a text to another. -/
inductive Edits : Nat → Text → Text → Prop where
  | nil (text : Text) : Edits 0 text text
  | cons {n : Nat} {source middle target : Text} :
      Edit source middle → Edits n middle target → Edits (n + 1) source target

variable {source middle target : Text} {n m : Nat}

/-! ## Chains -/

/-- What is edited may stand behind another point. -/
theorem Edit.behind (c : Point) (h : Edit source target) : Edit (c :: source) (c :: target) := by
  cases h with
  | insert before after d => exact .insert (c :: before) after d
  | delete before after d => exact .delete (c :: before) after d
  | substitute before after d e => exact .substitute (c :: before) after d e

/-- An edit can be undone. -/
theorem Edit.symm (h : Edit source target) : Edit target source := by
  cases h with
  | insert before after c => exact .delete before after c
  | delete before after c => exact .insert before after c
  | substitute before after c d => exact .substitute before after d c

/-- A chain may stand behind another point. -/
theorem Edits.behind (c : Point) (h : Edits n source target) :
    Edits n (c :: source) (c :: target) := by
  induction h with
  | nil text => exact .nil (c :: text)
  | cons hedit _ ih => exact .cons (hedit.behind c) ih

/-- Chains one after the other are a chain. -/
theorem Edits.append (h : Edits n source middle) (hrest : Edits m middle target) :
    Edits (n + m) source target := by
  induction h with
  | nil text => rwa [Nat.zero_add]
  | cons hedit _ ih => exact Nat.succ_add _ m ▸ .cons hedit (ih hrest)

/-- A chain can be undone. -/
theorem Edits.symm (h : Edits n source target) : Edits n target source := by
  induction h with
  | nil text => exact .nil text
  | cons hedit _ ih => exact ih.append (.cons hedit.symm (.nil _))

/-- Of two chains the shorter one is a chain. -/
theorem Edits.min (h : Edits n source target) (hother : Edits m source target) :
    Edits (min n m) source target := by
  rcases Nat.le_total n m with hle | hle
  · rwa [Nat.min_eq_left hle]
  · rwa [Nat.min_eq_right hle]

/-- A text can be written point by point. -/
theorem edits_nil_left (target : Text) : Edits target.length [] target := by
  induction target with
  | nil => exact .nil []
  | cons d ds ih => exact .cons (.insert [] [] d) (ih.behind d)

/-- A chain as long as the distance: each way to go on that the recursion weighs is an edit of the
first point. -/
theorem edits_editDistance (source target : Text) :
    Edits (editDistance source target) source target := by
  fun_induction editDistance source target with
  | case1 target => exact edits_nil_left target
  | case2 source hsource => exact (edits_nil_left source).symm
  | case3 c cs d ds hdelete hinsert hkeep =>
      have hdeleted : Edits (editDistance cs (d :: ds) + 1) (c :: cs) (d :: ds) :=
        .cons (.delete [] cs c) hdelete
      have hinserted : Edits (editDistance (c :: cs) ds + 1) (c :: cs) (d :: ds) :=
        .cons (.insert [] (c :: cs) d) (hinsert.behind d)
      have hkept : Edits (editDistance cs ds + if c = d then 0 else 1) (c :: cs) (d :: ds) := by
        by_cases h : c = d
        · simpa [h] using hkeep.behind d
        · simpa [h] using Edits.cons (.substitute [] cs c d) (hkeep.behind d)
      exact (hdeleted.min hinserted).min hkept

/-! ## What an edit changes -/

/-- The distance to a text is one more at most with a point more in front of that text. -/
theorem editDistance_cons_right_le (source : Text) (d : Point) (ds : Text) :
    editDistance source (d :: ds) ≤ editDistance source ds + 1 := by
  cases source with
  | nil => simp [editDistance]
  | cons c cs => rw [editDistance]; omega

/-- The distance from a text is one more at most with a point more in front of that text. -/
theorem editDistance_cons_left_le (c : Point) (cs target : Text) :
    editDistance (c :: cs) target ≤ editDistance cs target + 1 := by
  cases target with
  | nil => simp [editDistance_nil_right]
  | cons d ds => rw [editDistance]; omega

/-- The distance from a text is one less at most with a point more in front of that text. -/
theorem editDistance_le_cons_left (c : Point) (cs target : Text) :
    editDistance cs target ≤ editDistance (c :: cs) target + 1 := by
  induction target with
  | nil => simp only [editDistance_nil_right, List.length_cons]; omega
  | cons d ds ih =>
      have hright := editDistance_cons_right_le cs d ds
      rw [editDistance]
      omega

/-- Texts whose distances to every other differ by one at most still do behind any points. -/
theorem editDistance_behind_le {first second : Text}
    (h : ∀ target, editDistance first target ≤ editDistance second target + 1) (c : Point)
    (target : Text) :
    editDistance (c :: first) target ≤ editDistance (c :: second) target + 1 := by
  induction target with
  | nil =>
      have hnil := h []
      simp only [editDistance_nil_right, List.length_cons] at hnil ⊢
      omega
  | cons d ds ih =>
      have hdelete := h (d :: ds)
      have hkeep := h ds
      rw [editDistance, editDistance]
      omega

/-- Another first point changes the distance by one at most. -/
theorem editDistance_substitute_le (c d : Point) (cs target : Text) :
    editDistance (c :: cs) target ≤ editDistance (d :: cs) target + 1 := by
  induction target with
  | nil => simp [editDistance_nil_right]
  | cons e es ih =>
      rw [editDistance, editDistance]
      split <;> split <;> omega

/-- An edit brings a text nearer to another by one at most. The induction is on the points in front
of the place of the edit. -/
theorem Edit.editDistance_le (h : Edit source middle) (target : Text) :
    editDistance source target ≤ editDistance middle target + 1 := by
  cases h with
  | insert before after c =>
      induction before generalizing target with
      | nil => exact editDistance_le_cons_left c after target
      | cons e before ih => exact editDistance_behind_le ih e target
  | delete before after c =>
      induction before generalizing target with
      | nil => exact editDistance_cons_left_le c after target
      | cons e before ih => exact editDistance_behind_le ih e target
  | substitute before after c d =>
      induction before generalizing target with
      | nil => exact editDistance_substitute_le c d after target
      | cons e before ih => exact editDistance_behind_le ih e target

/-- No chain is shorter than the distance. -/
theorem Edits.editDistance_le (h : Edits n source target) : editDistance source target ≤ n := by
  induction h with
  | nil text => exact Nat.le_of_eq (editDistance_eq_zero_iff.2 rfl)
  | cons hedit _ ih => exact Nat.le_trans (hedit.editDistance_le _) (Nat.succ_le_succ ih)

/-! ## The shortest chain -/

/-- The distance between two texts is the length of the shortest chain of edits that leads from one
to the other. -/
theorem isLeast_distance (source target : Text) :
    IsLeast {n | Edits n source target} (distance source target) := by
  rw [distance_eq]
  exact ⟨edits_editDistance source target, fun _ h => h.editDistance_le⟩

/-- There and back it is as far. -/
theorem distance_comm (source target : Text) : distance source target = distance target source := by
  have hle : ∀ a b : Text, editDistance a b ≤ editDistance b a :=
    fun a b => (edits_editDistance b a).symm.editDistance_le
  rw [distance_eq, distance_eq]
  exact Nat.le_antisymm (hle source target) (hle target source)

/-- No way round is shorter. -/
theorem distance_triangle (source middle target : Text) :
    distance source target ≤ distance source middle + distance middle target := by
  rw [distance_eq, distance_eq, distance_eq]
  exact ((edits_editDistance source middle).append
    (edits_editDistance middle target)).editDistance_le

end ProseGuard.Text
