/-!
# First occurrences

The elements of a list without those whose key an earlier element has. Main statements:
`map_distinctBy_nodup` and `mem_map_distinctBy`, by which the keys are the same and each occurs
once; `distinctBy_append_cons_of_mem`, by which an element makes no difference behind one of its
key.
-/

namespace ProseGuard

variable {α β : Type} [DecidableEq β]

/-- Keeps the first element of each key, in order. -/
def distinctBy (key : α → β) : List α → List α
  | [] => []
  | a :: as => a :: (distinctBy key as).filter fun b => key b ≠ key a

/-- What is kept was there. -/
theorem mem_of_mem_distinctBy {key : α → β} {as : List α} {a : α} (h : a ∈ distinctBy key as) :
    a ∈ as := by
  induction as with
  | nil => exact h
  | cons b as ih =>
    simp only [distinctBy, List.mem_cons, List.mem_filter] at h
    rcases h with rfl | h
    · simp
    · exact List.mem_cons_of_mem _ (ih h.1)

/-- A key is among those kept exactly when it was there. -/
theorem mem_map_distinctBy {key : α → β} {as : List α} {k : β} :
    k ∈ (distinctBy key as).map key ↔ k ∈ as.map key := by
  induction as with
  | nil => rfl
  | cons a as ih =>
    simp only [distinctBy, List.map_cons, List.mem_cons, List.mem_map, List.mem_filter] at ih ⊢
    constructor
    · rintro (rfl | ⟨b, ⟨hb, -⟩, rfl⟩)
      · exact .inl rfl
      · exact .inr (ih.1 ⟨b, hb, rfl⟩)
    · rintro (rfl | h)
      · exact .inl rfl
      · by_cases hk : k = key a
        · exact .inl hk
        · obtain ⟨b, hb, rfl⟩ := ih.2 h
          exact .inr ⟨b, ⟨hb, by simpa using hk⟩, rfl⟩

/-- Each key is kept once. -/
theorem map_distinctBy_nodup (key : α → β) (as : List α) :
    ((distinctBy key as).map key).Nodup := by
  induction as with
  | nil => simp [distinctBy]
  | cons a as ih =>
    simp only [distinctBy, List.map_cons, List.nodup_cons, List.mem_map, List.mem_filter]
    constructor
    · rintro ⟨b, ⟨-, hb⟩, hk⟩
      simp [hk] at hb
    · exact ih.sublist (List.filter_sublist.map key)

/-- Where every key occurs once, nothing is dropped. -/
theorem distinctBy_eq_self {key : α → β} {as : List α} (h : (as.map key).Nodup) :
    distinctBy key as = as := by
  induction as with
  | nil => rfl
  | cons a as ih =>
    simp only [List.map_cons, List.nodup_cons, List.mem_map] at h
    rw [distinctBy, ih h.2, List.filter_eq_self.2]
    intro b hb
    simpa using fun hk => h.1 ⟨b, hb, hk⟩

variable {key : α → β}

/-- Where the key decides what is left out, leaving it out before or after the repetitions makes no
difference. -/
theorem filter_distinctBy {p : α → Bool} (hp : ∀ a b, key a = key b → p a = p b) (as : List α) :
    (distinctBy key as).filter p = distinctBy key (as.filter p) := by
  induction as with
  | nil => rfl
  | cons a as ih =>
      rw [distinctBy, List.filter_cons, List.filter_cons]
      by_cases h : p a
      · rw [if_pos h, if_pos h, distinctBy, ← ih, List.filter_filter, List.filter_filter]
        simp only [Bool.and_comm]
      · rw [if_neg h, if_neg h, ← ih, List.filter_filter]
        -- what is left out with `a` has its key
        refine List.filter_congr fun b _ => ?_
        by_cases hkey : key b = key a
        · simp [hp b a hkey, h]
        · simp [hkey]

/-- Where the key decides what is looked for, the repetitions make no difference to what is found. -/
theorem find?_distinctBy {p : α → Bool} (hp : ∀ a b, key a = key b → p a = p b) (as : List α) :
    (distinctBy key as).find? p = as.find? p := by
  rw [← List.head?_filter, filter_distinctBy hp, ← List.head?_filter]
  cases as.filter p <;> rfl

/-- An element whose key stands before it makes no difference. -/
theorem distinctBy_append_cons_of_mem {as bs : List α} {b : α} (h : key b ∈ as.map key) :
    distinctBy key (as ++ b :: bs) = distinctBy key (as ++ bs) := by
  induction as with
  | nil => exact absurd h List.not_mem_nil
  | cons a as ih =>
      rw [List.cons_append, List.cons_append, distinctBy, distinctBy]
      by_cases heq : key b = key a
      · have hkeys : ∀ c d, key c = key d → decide (key c ≠ key a) = decide (key d ≠ key a) :=
          fun c d h => by rw [h]
        rw [filter_distinctBy hkeys, filter_distinctBy hkeys, List.filter_append,
          List.filter_append, List.filter_cons_of_neg (by simp [heq])]
      · rw [ih ((List.mem_cons.1 h).resolve_left heq)]

end ProseGuard
