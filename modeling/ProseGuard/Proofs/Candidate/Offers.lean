import Mathlib.Data.List.Nodup
import ProseGuard.Candidate.Pool
import ProseGuard.Distinct
import ProseGuard.Proofs.Results

/-!
# What a pool keeps of its offers

A pool that elements are offered to in turn holds, of those that have a word, the first of every
identity, in order (`elements_foldl_insert`). So everything it holds was offered
(`of_mem_ofOffers`), and an offer with a word stands in it up to its identity
(`exists_mem_ofOffers`).
-/

namespace ProseGuard.Candidate.Pool

/-- A pool holds, behind what it held, the first of every new identity among the offers that have
a word. -/
theorem elements_foldl_insert (pool : Pool) (es : List Element) :
    (es.foldl insert pool).elements =
      distinctBy Element.identity (pool.elements ++ es.filter Element.isNamed) := by
  induction es generalizing pool with
  | nil => simpa using (distinctBy_eq_self pool.distinct).symm
  | cons e es ih =>
      -- the rest is offered to the pool as it is after the first offer
      rw [List.foldl_cons, ih, elements_insert, List.filter_cons]
      by_cases hnamed : e.isNamed
      · rw [if_pos hnamed]
        by_cases hheld : pool.contains e
        · have hmem : e.identity ∈ pool.elements.map Element.identity := by
            simpa [contains] using hheld
          rw [if_neg (by simp [accepts, hheld]), distinctBy_append_cons_of_mem hmem]
        · rw [if_pos (by simp [accepts, hnamed, hheld]), List.append_assoc, List.singleton_append]
      · rw [if_neg (by simp [accepts, hnamed]), if_neg hnamed]

/-- The pool that offers make in turn. -/
def ofOffers (es : List Element) : Pool :=
  es.foldl insert empty

/-- What stands in a pool made by offers. -/
theorem elements_ofOffers (es : List Element) :
    (ofOffers es).elements = distinctBy Element.identity (es.filter Element.isNamed) := by
  rw [ofOffers, elements_foldl_insert]
  rfl

/-- What stands in a pool was offered and has a word. -/
theorem of_mem_ofOffers {es : List Element} {e : Element} (h : e ∈ (ofOffers es).elements) :
    e ∈ es ∧ e.isNamed := by
  rw [elements_ofOffers] at h
  exact List.mem_filter.1 (mem_of_mem_distinctBy h)

/-- An offer with a word stands in the pool up to its identity. -/
theorem exists_mem_ofOffers {es : List Element} {e : Element} (h : e ∈ es) (hnamed : e.isNamed) :
    ∃ f ∈ (ofOffers es).elements, f.identity = e.identity := by
  have hkey : e.identity ∈ (ofOffers es).elements.map Element.identity := by
    rw [elements_ofOffers, mem_map_distinctBy]
    exact List.mem_map_of_mem (List.mem_filter.2 ⟨h, hnamed⟩)
  exact List.mem_map.1 hkey

/-- No element stands in a pool twice. -/
theorem elements_nodup (pool : Pool) : pool.elements.Nodup :=
  .of_map _ pool.distinct

end ProseGuard.Candidate.Pool
