import Mathlib.Data.List.Forall2
import Mathlib.Data.List.Induction
import Mathlib.Data.List.Nodup
import Mathlib.Data.List.Perm.Subperm
import ProseGuard.Distinct
import ProseGuard.Proofs.Results

/-!
# Places of first occurrences

Of the elements of a list that count, `distinctBy` keeps the first of each key, in the order of
their places (`firsts_distinctBy`): behind all others, an element of a new key is kept at the end
and one of a known key makes no difference. It matters whether elements are left out before or after
(`distinctBy_filter_eq_iff`).
-/

namespace ProseGuard

variable {α β γ : Type} {key : α → β} {counts : α → Bool} {as kept : List α} {a : α}

/-- The element stands at the place and counts, and no other element that counts and has its key
stands before it. -/
structure IsFirst (key : α → β) (counts : α → Bool) (as : List α) (place : Nat) (a : α) : Prop where
  found : as[place]? = some a
  counted : counts a
  first : ∀ i b, i < place → as[i]? = some b → counts b → key b ≠ key a

/-- The elements kept are all the first ones of their keys, in the order of their places. -/
def Firsts (key : α → β) (counts : α → Bool) (as kept : List α) : Prop :=
  ∃ places : List Nat, places.Pairwise (· < ·) ∧ List.Forall₂ (IsFirst key counts as) places kept ∧
    ∀ place a, IsFirst key counts as place a → place ∈ places

/-! ## One more element -/

/-- A first element stays one if more follow. -/
theorem IsFirst.append {place : Nat} (h : IsFirst key counts as place a) (more : List α) :
    IsFirst key counts (as ++ more) place a := by
  obtain ⟨hplace, -⟩ := List.getElem?_eq_some_iff.1 h.found
  refine ⟨by rw [List.getElem?_append_left hplace, h.found], h.counted, fun i b hi hb => ?_⟩
  rw [List.getElem?_append_left (by omega)] at hb
  exact h.first i b hi hb

/-- An element that is not among those that follow is a first one exactly if it was. -/
theorem isFirst_append_iff {place : Nat} {more : List α} (h : a ∉ more) :
    IsFirst key counts (as ++ more) place a ↔ IsFirst key counts as place a := by
  refine ⟨fun hfirst => ?_, fun hfirst => hfirst.append more⟩
  have hfound := hfirst.found
  rcases Nat.lt_or_ge place as.length with hlt | hge
  · rw [List.getElem?_append_left hlt] at hfound
    refine ⟨hfound, hfirst.counted, fun i b hi hb => hfirst.first i b hi ?_⟩
    rw [List.getElem?_append_left (by omega), hb]
  · rw [List.getElem?_append_right hge] at hfound
    exact absurd (List.mem_of_getElem? hfound) h

/-- With one more element, a first one is one that was or it is the new one. -/
theorem isFirst_append_singleton_iff {place : Nat} {b : α} :
    IsFirst key counts (as ++ [a]) place b ↔ IsFirst key counts as place b ∨
      (place = as.length ∧ b = a ∧ counts a ∧ ∀ c ∈ as, counts c → key c ≠ key a) := by
  constructor
  · rintro ⟨hfound, hcounted, hfirst⟩
    have hbefore : ∀ i c, i < place → as[i]? = some c → counts c → key c ≠ key b := by
      intro i c hi hc
      obtain ⟨hlt, -⟩ := List.getElem?_eq_some_iff.1 hc
      exact hfirst i c hi (by rw [List.getElem?_append_left hlt, hc])
    rcases Nat.lt_or_ge place as.length with hlt | hge
    · rw [List.getElem?_append_left hlt] at hfound
      exact .inl ⟨hfound, hcounted, hbefore⟩
    · obtain ⟨hplace, hb⟩ : place = as.length ∧ a = b := by
        rw [List.getElem?_append_right hge, List.getElem?_singleton] at hfound
        split at hfound
        · exact ⟨by omega, Option.some.inj hfound⟩
        · exact nomatch hfound
      subst hb
      refine .inr ⟨hplace, rfl, hcounted, fun c hc => ?_⟩
      obtain ⟨i, hi⟩ := List.getElem?_of_mem hc
      obtain ⟨hlt, -⟩ := List.getElem?_eq_some_iff.1 hi
      exact hbefore i c (by omega) hi
  · rintro (h | ⟨rfl, rfl, hcounted, hnew⟩)
    · exact h.append _
    · refine ⟨by simp, hcounted, fun i c hi hc => ?_⟩
      rw [List.getElem?_append_left hi] at hc
      exact hnew c (List.mem_of_getElem? hc)

/-- A new element is kept at the end. -/
theorem Firsts.append_of_new (h : Firsts key counts as kept) (hcounted : counts a)
    (hnew : ∀ c ∈ as, counts c → key c ≠ key a) :
    Firsts key counts (as ++ [a]) (kept ++ [a]) := by
  obtain ⟨places, hascending, hkept, hall⟩ := h
  have hbelow : ∀ i ∈ places, i < as.length := by
    intro i hi
    obtain ⟨b, -, hb⟩ := Run.exists_of_mem_right hkept.flip hi
    exact (List.getElem?_eq_some_iff.1 hb.found).1
  refine ⟨places ++ [as.length], ?_, ?_, fun place b hb => ?_⟩
  · refine List.pairwise_append.2 ⟨hascending, List.pairwise_singleton _ _, fun i hi j hj => ?_⟩
    rw [List.mem_singleton.1 hj]
    exact hbelow i hi
  · refine List.rel_append (hkept.imp fun place b hb => hb.append _) (.cons ?_ .nil)
    exact isFirst_append_singleton_iff.2 (.inr ⟨rfl, rfl, hcounted, hnew⟩)
  · rcases isFirst_append_singleton_iff.1 hb with hb | ⟨rfl, -⟩
    · exact List.mem_append_left _ (hall place b hb)
    · exact List.mem_append_right _ (List.mem_singleton_self _)

/-- Any other element makes no difference. -/
theorem Firsts.append_of_not_new (h : Firsts key counts as kept)
    (hold : counts a → ∃ c ∈ as, counts c ∧ key c = key a) :
    Firsts key counts (as ++ [a]) kept := by
  obtain ⟨places, hascending, hkept, hall⟩ := h
  refine ⟨places, hascending, hkept.imp fun place b hb => hb.append _, fun place b hb => ?_⟩
  rcases isFirst_append_singleton_iff.1 hb with hb | ⟨-, -, hcounted, hnew⟩
  · exact hall place b hb
  · obtain ⟨c, hc, hccounted, hkey⟩ := hold hcounted
    exact absurd hkey (hnew c hc hccounted)

/-- What is kept are the first elements of their keys. -/
theorem Firsts.mem_iff (h : Firsts key counts as kept) :
    a ∈ kept ↔ ∃ place, IsFirst key counts as place a := by
  obtain ⟨places, -, hkept, hall⟩ := h
  constructor
  · intro ha
    obtain ⟨place, -, hfirst⟩ := Run.exists_of_mem_right hkept ha
    exact ⟨place, hfirst⟩
  · rintro ⟨place, hfirst⟩
    obtain ⟨b, hb, hother⟩ := Run.exists_of_mem_right hkept.flip (hall place a hfirst)
    obtain rfl : b = a := Option.some.inj (hother.found.symm.trans hfirst.found)
    exact hb

/-! ## Keeping the first of each key -/

variable [DecidableEq β]

/-- An element of a new key is kept at the end. -/
theorem distinctBy_append_singleton_of_not_mem (h : key a ∉ as.map key) :
    distinctBy key (as ++ [a]) = distinctBy key as ++ [a] := by
  induction as with
  | nil => rfl
  | cons b as ih =>
      rw [List.map_cons, List.mem_cons, not_or] at h
      rw [List.cons_append, distinctBy, distinctBy, ih h.2, List.filter_append,
        List.filter_cons_of_pos (by simpa using h.1)]
      rfl

/-- What is kept of the images are images of what is kept. -/
theorem distinctBy_map {key : γ → β} (f : α → γ) (as : List α) :
    distinctBy key (as.map f) = (distinctBy (fun a => key (f a)) as).map f := by
  induction as with
  | nil => rfl
  | cons a as ih =>
      rw [List.map_cons, distinctBy, distinctBy, ih, List.map_cons, List.filter_map]
      rfl

/-- Of the elements that count, the first of each key are kept. -/
theorem firsts_distinctBy (key : α → β) (counts : α → Bool) (as : List α) :
    Firsts key counts as (distinctBy key (as.filter counts)) := by
  induction as using List.reverseRecOn with
  | nil => exact ⟨[], .nil, .nil, fun place a h => nomatch h.found⟩
  | append_singleton as a ih =>
      have hknown : key a ∈ (as.filter counts).map key ↔ ∃ c ∈ as, counts c ∧ key c = key a := by
        simp [and_assoc]
      by_cases hcounted : counts a
      · rw [List.filter_append, List.filter_cons_of_pos hcounted, List.filter_nil]
        by_cases hkey : key a ∈ (as.filter counts).map key
        · rw [distinctBy_append_cons_of_mem hkey, List.append_nil]
          exact ih.append_of_not_new fun _ => hknown.1 hkey
        · rw [distinctBy_append_singleton_of_not_mem hkey]
          exact ih.append_of_new hcounted fun c hc hccounted hsame =>
            hkey (hknown.2 ⟨c, hc, hccounted, hsame⟩)
      · rw [List.filter_append, List.filter_cons_of_neg hcounted, List.filter_nil, List.append_nil]
        exact ih.append_of_not_new fun h => absurd h hcounted

/-- Without regard to what counts, the first of each key are kept. -/
theorem mem_distinctBy_iff :
    a ∈ distinctBy key as ↔ ∃ place, IsFirst key (fun _ => true) as place a := by
  have h := (firsts_distinctBy key (fun _ => true) as).mem_iff (a := a)
  rwa [List.filter_true] at h

/-! ## Leaving out before and after -/

/-- What counts of the first elements of their keys are first among those that count. -/
theorem filter_distinctBy_sublist (counts : α → Bool) (as : List α) :
    ((distinctBy key as).filter counts).Sublist (distinctBy key (as.filter counts)) := by
  induction as with
  | nil => exact .slnil
  | cons a as ih =>
      rw [distinctBy]
      by_cases h : counts a
      · rw [List.filter_cons_of_pos h, List.filter_cons_of_pos h, distinctBy, List.filter_filter,
          funext fun b => Bool.and_comm (counts b) _, ← List.filter_filter]
        exact (ih.filter _).cons_cons a
      · rw [List.filter_cons_of_neg h, List.filter_cons_of_neg h]
        exact (List.filter_sublist.filter counts).trans ih

/-- An element that is first among those that count is first of all exactly if the first one of its
key counts. -/
theorem mem_distinctBy_iff_of_filter (ha : a ∈ distinctBy key (as.filter counts)) :
    a ∈ distinctBy key as ↔ ∀ b ∈ distinctBy key as, key b = key a → counts b := by
  obtain ⟨hmem, hcounted⟩ := List.mem_filter.1 (mem_of_mem_distinctBy ha)
  constructor
  · intro hfirst b hb hkey
    rwa [List.inj_on_of_nodup_map (map_distinctBy_nodup key as) hb hfirst hkey]
  · intro hall
    have hknown : key a ∈ (distinctBy key as).map key :=
      mem_map_distinctBy.2 (List.mem_map_of_mem hmem)
    obtain ⟨b, hb, hkey⟩ := List.mem_map.1 hknown
    have hkept := (filter_distinctBy_sublist counts as).subset
      (List.mem_filter.2 ⟨hb, hall b hb hkey⟩)
    obtain rfl : b = a := List.inj_on_of_nodup_map (map_distinctBy_nodup key _) hkept ha hkey
    exact hb

/-- It makes no difference when the rest is left out if no first element that does not count has the
key of one that does. -/
theorem distinctBy_filter_eq_iff :
    distinctBy key (as.filter counts) = (distinctBy key as).filter counts ↔
      ∀ b ∈ distinctBy key as, ∀ a ∈ as, counts a → key b = key a → counts b := by
  constructor
  · intro heq b hb a ha hcounted hkey
    have hknown : key a ∈ (distinctBy key (as.filter counts)).map key :=
      mem_map_distinctBy.2 (List.mem_map_of_mem (List.mem_filter.2 ⟨ha, hcounted⟩))
    obtain ⟨c, hc, hsame⟩ := List.mem_map.1 hknown
    rw [heq] at hc
    obtain ⟨hc, hccounted⟩ := List.mem_filter.1 hc
    rwa [List.inj_on_of_nodup_map (map_distinctBy_nodup key as) hb hc (hkey.trans hsame.symm)]
  · intro hall
    have hsubset : distinctBy key (as.filter counts) ⊆ (distinctBy key as).filter counts := by
      intro a ha
      obtain ⟨hmem, hcounted⟩ := List.mem_filter.1 (mem_of_mem_distinctBy ha)
      exact List.mem_filter.2 ⟨(mem_distinctBy_iff_of_filter ha).2 fun b hb hkey =>
        hall b hb a hmem hcounted hkey, hcounted⟩
    have hnodup : (distinctBy key (as.filter counts)).Nodup :=
      .of_map key (map_distinctBy_nodup key _)
    exact ((filter_distinctBy_sublist counts as).eq_of_length_le
      (List.subperm_of_subset hnodup hsubset).length_le).symm

end ProseGuard
