import ProseGuard.Guard.Suffix
import ProseGuard.Proofs.Text.Search

/-!
# Phrases for relations

Where rewriting phrases for relations to operators has no effect: in a text that holds no phrase
(`withOperators_eq_self`), in a start that holds the first letter of none (`withOperators_append`)
and at a character that none holds (`withOperators_append_cons`).
-/

namespace ProseGuard.Guard

/-- No phrase is empty. -/
theorem verbalRelations_ne_nil : ∀ entry ∈ verbalRelations, entry.1 ≠ [] := by
  decide

/-- Where no phrase for a relation occurs, a text stays as it is. -/
theorem withOperators_eq_self {text : Text} (h : ∀ entry ∈ verbalRelations, ¬ entry.1 <:+: text) :
    withOperators text = text := by
  refine List.foldlRecOn (motive := fun other => other = text) verbalRelations _ rfl
    fun other hother entry hentry => ?_
  rw [hother]
  exact Text.replaceAll_of_not_occurs (Text.occurs_eq_false_iff.2 (h entry hentry))

/-- A start that holds the first letter of no phrase stays as it is. -/
theorem withOperators_append {before : Text}
    (h : ∀ entry ∈ verbalRelations, ∀ c ∈ entry.1.head?, c ∉ before) (rest : Text) :
    withOperators (before ++ rest) = before ++ withOperators rest := by
  refine List.foldl_rel (r := fun text other => text = before ++ other) rfl
    fun entry hentry text other htext => ?_
  subst htext
  refine Text.replaceAll_append_of_forall other fun start hstart hne hbegins => ?_
  obtain ⟨c, cs, hc⟩ := List.exists_cons_of_ne_nil (verbalRelations_ne_nil entry hentry)
  obtain ⟨d, ds, rfl⟩ := List.exists_cons_of_ne_nil hne
  rw [hc] at hbegins
  obtain ⟨rfl, -⟩ := List.cons_prefix_cons.1 hbegins
  exact h entry hentry c (by rw [hc]; rfl) (hstart.subset List.mem_cons_self)

/-- A character that no phrase holds stays, and the two sides of it are rewritten apart. -/
theorem withOperators_append_cons {c : Point} (hc : ∀ entry ∈ verbalRelations, c ∉ entry.1)
    (before behind : Text) :
    withOperators (before ++ c :: behind) = withOperators before ++ c :: withOperators behind := by
  have hne := verbalRelations_ne_nil
  unfold withOperators
  generalize verbalRelations = entries at hc hne
  induction entries generalizing before behind with
  | nil => rfl
  | cons entry entries ih =>
      rw [List.foldl_cons, List.foldl_cons, List.foldl_cons]
      dsimp only
      rw [Text.replaceAll_append_cons (hne entry List.mem_cons_self) (hc entry List.mem_cons_self)]
      exact ih _ _ (fun other hother => hc other (List.mem_cons_of_mem _ hother))
        fun other hother => hne other (List.mem_cons_of_mem _ hother)

end ProseGuard.Guard
