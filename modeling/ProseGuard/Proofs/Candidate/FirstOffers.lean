import ProseGuard.Proofs.Candidate.Origin
import ProseGuard.Proofs.FirstOccurrences

/-!
# First offers

A pool that elements were offered to holds the first offer of each kind and key among those that
have a word, in the order of these offers (`firstOffers_ofOffers`). The words of what a member's
pool holds are not empty, although one such word is enough to be taken (`ne_empty_of_mem_offers`).
Main statement: `pool_of_offers`.
-/

namespace ProseGuard

open Program (TypeDecl Method Executable)
open Comment (Member)
open Candidate (Element Pool)

namespace Candidate

/-- The element stands at the place among the offers, has a word that is not empty, and no other
such element of its kind and key stands before it. -/
structure IsFirstOffer (es : List Element) (place : Nat) (e : Element) : Prop where
  offered : es[place]? = some e
  named : e.isNamed
  first : ∀ i f, i < place → es[i]? = some f → f.isNamed → f.identity ≠ e.identity

/-- The elements kept are all the first offers, in the order of their places. -/
def FirstOffers (es kept : List Element) : Prop :=
  ∃ places : List Nat, places.Pairwise (· < ·) ∧ List.Forall₂ (IsFirstOffer es) places kept ∧
    ∀ place e, IsFirstOffer es place e → place ∈ places

variable {es kept : List Element} {e : Element}

/-- The first offers are the first elements of their kinds and keys that have a word. -/
theorem firstOffers_iff :
    FirstOffers es kept ↔ Firsts Element.identity Element.isNamed es kept := by
  have hplace : IsFirstOffer es = IsFirst Element.identity Element.isNamed es := by
    funext place e
    exact propext ⟨fun h => ⟨h.offered, h.named, h.first⟩, fun h => ⟨h.found, h.counted, h.first⟩⟩
  rw [FirstOffers, hplace, Firsts]

namespace Pool

/-- A pool holds the first offers that were made to it. -/
theorem firstOffers_ofOffers (es : List Element) : FirstOffers es (ofOffers es).elements := by
  rw [firstOffers_iff, elements_ofOffers]
  exact firsts_distinctBy Element.identity Element.isNamed es

/-! ## Keys without a fixed value -/

/-- Offers that have a word and no fixed key fail, and nothing else does. -/
theorem foldlM_offer (pool : Pool) (es : List Element) :
    es.foldlM offer pool =
      if es.any fun e => e.isNamed && !e.key.isFixed then .error (.fault .looseKey)
      else .ok (es.foldl insert pool) := by
  induction es generalizing pool with
  | nil => rfl
  | cons e es ih =>
      rw [List.foldlM_cons, List.any_cons, List.foldl_cons, offer]
      cases e.isNamed && !e.key.isFixed with
      | true => rfl
      | false => exact ih (pool.insert e)

/-- Offers whose keys are fixed where they have a word make a pool, by whichever way they come
in. -/
theorem foldlM_offer_of_isFixed (h : ∀ e ∈ es, e.isNamed → e.key.isFixed) :
    es.foldlM offer empty = .ok (ofOffers es) := by
  rw [foldlM_offer, if_neg]
  · rfl
  · intro hany
    obtain ⟨e, he, hloose⟩ := List.any_eq_true.1 hany
    obtain ⟨hnamed, hnot⟩ := Bool.and_eq_true_iff.1 hloose
    rw [h e he hnamed] at hnot
    exact nomatch hnot

/-- An offer that can be made says whether the pool grows by it, and if not it makes no
difference. -/
theorem offer_cases (pool : Pool) (h : e.isNamed → e.key.isFixed) :
    ∃ next, pool.offer e = .ok next ∧
      (pool.accepts e ↔ next.elements.length = pool.elements.length + 1) ∧
      (pool.accepts e = false → next = pool) := by
  have hfixed : (e.isNamed && !e.key.isFixed) = false := by
    cases hnamed : e.isNamed with
    | false => rfl
    | true => rw [h hnamed]; rfl
  refine ⟨pool.insert e, by rw [offer, if_neg (by rw [hfixed]; exact Bool.false_ne_true)], ?_, ?_⟩
  · rw [elements_insert]
    split
    · next haccepts => simpa using haccepts
    · next haccepts => simpa using haccepts
  · intro hrefused
    rw [insert, dif_neg (by rw [hrefused]; exact Bool.false_ne_true)]

/-- Looking up an element that has a fixed key tells whether its identity is there. -/
theorem lookup_of_isFixed (pool : Pool) (h : e.key.isFixed) :
    pool.lookup e = .ok (decide (e.identity ∈ pool.elements.map Element.identity)) := by
  rw [lookup, if_pos h, contains, List.contains_eq_mem]

end Pool

end Candidate

/-! ## Words -/

/-- A word of mixed case is not empty. -/
theorem Program.ne_nil_of_lastHump {text hump : Text} (h : lastHump? text = some hump) :
    hump ≠ [] := by
  induction text with
  | nil => exact nomatch h
  | cons c cs ih =>
      rw [lastHump?] at h
      split at h
      · next found hfound => exact ih (hfound.trans h)
      · split at h
        · rw [← Option.some.inj h]
          exact List.cons_ne_nil _ _
        · exact nomatch h

/-- If one of the words of a type is not empty, none is. -/
theorem Program.ne_empty_of_mem_typeWords {name word : Text}
    (hnamed : ∃ w ∈ typeWords name, w ≠ "") (h : word ∈ typeWords name) : word ≠ "" := by
  unfold typeWords at hnamed h
  cases hlast : lastHump? (simpleName name).tail with
  | none =>
      simp only [hlast, List.mem_singleton, exists_eq_left] at hnamed h
      exact h ▸ hnamed
  | some hump =>
      simp only [hlast, List.mem_cons, List.not_mem_nil, or_false] at h
      rcases h with rfl | rfl
      · -- an empty name would have no word behind its first character
        intro hempty
        have hnone : lastHump? (List.tail ("" : Text)) = none := rfl
        rw [hempty, hnone] at hlast
        cases hlast
      · exact ne_nil_of_lastHump hlast

namespace Context

variable {ctx : Context} {member : Member} {mined : List MinedParameter}

/-- The words that are mined for a parameter are not empty. -/
theorem ne_empty_of_minedFor {p : Program.Parameter} {m : MinedParameter}
    (h : ctx.minedFor member p = .ok m) {word : Text} (hword : word ∈ m.words) : word ≠ "" := by
  obtain ⟨-, -, hmine⟩ := minedFor_eq_ok_iff.1 h
  rw [result_mine] at hmine
  obtain ⟨found, -, hfound⟩ := Run.map_eq_ok_iff.1 hmine
  rw [← hfound, Candidate.mem_wordSet] at hword
  exact of_decide_eq_true (List.mem_filter.1 hword).2

/-- What is offered to the pool of a member has no empty word, unless it has no other. -/
theorem ne_empty_of_mem_offers {type : TypeDecl} {executable : Executable}
    (hnames : ∀ p ∈ member.parameters, p.name ≠ "")
    (hmined : member.parameters.mapM (ctx.minedFor member) = .ok mined) {e : Element}
    (h : e ∈ ctx.offers member type executable mined) (hnamed : e.isNamed) {word : Text}
    (hword : word ∈ e.identifiers) : word ≠ "" := by
  have hany : ∃ w ∈ e.identifiers, w ≠ "" := by
    obtain ⟨w, hw, hne⟩ := List.any_eq_true.1 hnamed
    exact ⟨w, hw, of_decide_eq_true hne⟩
  -- calls and fields have one word, which is their name
  have hsingle : ∀ name : Text, e.identifiers = [name] → word ≠ "" := by
    intro name hname
    rw [hname] at hany hword
    obtain ⟨w, hw, hne⟩ := hany
    rwa [List.mem_singleton.1 hword, ← List.mem_singleton.1 hw]
  rw [offers, List.mem_cons, List.mem_append, List.mem_append] at h
  rcases h with rfl | (hparameter | hcall) | hfield
  · exact Program.ne_empty_of_mem_typeWords hany hword
  · obtain ⟨i, m, hm, rfl⟩ := mem_parameterElements_iff.1 hparameter
    obtain ⟨p, hp, hmine⟩ :=
      Run.exists_of_mem_right (Run.mapM_eq_ok_iff.1 hmined) (List.mem_of_getElem? hm)
    obtain ⟨hname, -, -⟩ := minedFor_eq_ok_iff.1 hmine
    rcases mem_identifiers_iff.1 hword with rfl | hown
    · exact hname ▸ hnames p hp
    · exact ne_empty_of_minedFor hmine (List.mem_filter.1 hown).1
  · obtain ⟨m, -, rfl⟩ := List.mem_map.1 hcall
    refine hsingle m.name ?_
    unfold callElement
    split <;> rfl
  · obtain ⟨f, -, rfl⟩ := List.mem_map.1 hfield
    exact hsingle f.name rfl

/-- Elements put into a pool in turn fail at a key that has no fixed value; else the pool holds the
first offers of each kind and key that have a word, in their order, whether they are reported or
not, it grows by one with each further element that it accepts and stays as it is otherwise, and
what is found in it are the keys that it holds. No word of a member's candidates is empty if the
names of the documented parameters are not. -/
theorem pool_of_offers :
    (∀ es : List Element,
      ((∃ e ∈ es, e.isNamed ∧ e.key.isFixed = false) ∧
        es.foldlM Pool.offer .empty = .error (.fault .looseKey)) ∨
      ((∀ e ∈ es, e.isNamed → e.key.isFixed) ∧
        ∃ pool : Pool, es.foldlM Pool.offer .empty = .ok pool ∧
          (Pool.empty.addAll es).result = .ok pool ∧
          Candidate.FirstOffers es pool.elements ∧
          (∀ e : Element, e.key.isFixed →
            pool.lookup e = .ok (decide (e.identity ∈ pool.elements.map Element.identity))) ∧
          ∀ e : Element, (e.isNamed → e.key.isFixed) → ∃ next, pool.offer e = .ok next ∧
            (pool.accepts e ↔ next.elements.length = pool.elements.length + 1) ∧
            (pool.accepts e = false → next = pool))) ∧
    ∀ (ctx : Context) (member : Member) (pool : Pool), (∀ p ∈ member.parameters, p.name ≠ "") →
      (ctx.collect member).result = .ok pool →
        ∀ e ∈ pool.elements, ∀ word ∈ e.identifiers, word ≠ "" := by
  constructor
  · intro es
    by_cases hloose : ∃ e ∈ es, e.isNamed ∧ e.key.isFixed = false
    · refine .inl ⟨hloose, ?_⟩
      obtain ⟨e, he, hnamed, hfixed⟩ := hloose
      rw [Pool.foldlM_offer, if_pos]
      exact List.any_eq_true.2 ⟨e, he, by rw [hnamed, hfixed]; rfl⟩
    · have hfixed : ∀ e ∈ es, e.isNamed → e.key.isFixed := by
        intro e he hnamed
        by_contra h
        exact hloose ⟨e, he, hnamed, Bool.eq_false_iff.2 h⟩
      exact .inr ⟨hfixed, .ofOffers es, Pool.foldlM_offer_of_isFixed hfixed,
        Pool.result_addAll .empty es, Pool.firstOffers_ofOffers es,
        fun e => (Pool.ofOffers es).lookup_of_isFixed, fun e => (Pool.ofOffers es).offer_cases⟩
  · intro ctx member pool hnames hpool e he word hword
    rcases collect_cases hpool with rfl | ⟨type, executable, mined, -, hmined, rfl⟩
    · exact absurd he List.not_mem_nil
    · obtain ⟨hoffer, hnamed⟩ := Pool.of_mem_ofOffers he
      exact ne_empty_of_mem_offers hnames hmined hoffer hnamed hword

/-- The bounds of a range, one of them again in other words, and an expression without a word. -/
def boundOffers : List Element := [
  Candidate.parameterElement "low" 0 "int" ["minimum"] true,
  Candidate.derivedElement "high - low" "",
  Candidate.parameterElement "high" 1 "int" [] true,
  Candidate.parameterElement "low" 0 "int" ["floor"] false]

/-- A pool takes them in turn, and the candidates of a range have no empty word. -/
theorem pool_of_boundOffers :
    (∃ pool : Pool, boundOffers.foldlM Pool.offer .empty = .ok pool ∧
      Candidate.FirstOffers boundOffers pool.elements) ∧
    ∀ e ∈ rangePool.elements, ∀ word ∈ e.identifiers, word ≠ "" := by
  have hnamed : ∀ p ∈ rangeMember.parameters, p.name ≠ "" := by decide
  refine ⟨?_, pool_of_offers.2 rangeContext rangeMember rangePool hnamed collect_rangeMember⟩
  rcases pool_of_offers.1 boundOffers with ⟨hloose, -⟩ | ⟨-, pool, hpool, -, hfirst, -⟩
  · exact absurd hloose (by decide)
  · exact ⟨pool, hpool, hfirst⟩

end Context

end ProseGuard
