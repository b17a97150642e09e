import ProseGuard.Proofs.Candidate.Collect

/-!
# The parameters in a pool

A pool holds the documented parameters in order, each with its name and the words that were mined
for it alone. Main statements: `ofKind_parameter`, `mem_identifiers_iff` and `mem_ownWords_iff`.
-/

namespace ProseGuard.Context

open Program (Parameter Executable TypeDecl)
open Comment (Member)
open Candidate (Element Pool)

variable {ctx : Context} {member : Member} {mined : List MinedParameter}

/-- A list without repetition holds an element at one place only. -/
theorem place_unique {α : Type} {as : List α} (h : as.Nodup) {i j : Nat} {a : α}
    (hi : as[i]? = some a) (hj : as[j]? = some a) : i = j := by
  obtain ⟨hlt, -⟩ := List.getElem?_eq_some_iff.1 hi
  exact (List.getElem?_inj hlt h).1 (hi.trans hj.symm)

/-- A word is a parameter's own exactly when it was mined for it and for no other. -/
theorem mem_ownWords_iff (hnames : (mined.map (·.name)).Nodup) {m : MinedParameter} (hm : m ∈ mined)
    {word : Text} :
    word ∈ ownWords mined m ↔ word ∈ m.words ∧ ∀ q ∈ mined, word ∈ q.words → q = m := by
  rw [ownWords, List.mem_filter, decide_eq_true_eq, producers, distinctBy_eq_self hnames,
    List.countP_eq_length_filter, List.length_eq_one_iff]
  refine and_congr_right fun hword => ⟨?_, fun honly => ⟨m, ?_⟩⟩
  · rintro ⟨p, hp⟩ q hq hqword
    have hmem : ∀ r ∈ mined, word ∈ r.words → r = p := fun r hr hrword => by
      have : r ∈ mined.filter fun p => p.words.contains word :=
        List.mem_filter.2 ⟨hr, by simpa using hrword⟩
      rwa [hp, List.mem_singleton] at this
    rw [hmem q hq hqword, hmem m hm hword]
  · -- the parameters with the word are `m` alone, each being there once
    by_contra hne
    rcases ((hnames.of_map _).filter _).ne_singleton_iff m |>.1 hne with hnil | ⟨q, hq, hqm⟩
    · have : m ∈ mined.filter fun p => p.words.contains word :=
        List.mem_filter.2 ⟨hm, by simpa using hword⟩
      rw [hnil] at this
      exact absurd this List.not_mem_nil
    · obtain ⟨hq, hqword⟩ := List.mem_filter.1 hq
      exact hqm (honly q hq (by simpa using hqword))

/-- The words of a parameter are its name and those that are its own. -/
theorem mem_identifiers_iff {m : MinedParameter} {i : Nat} {word : Text} :
    word ∈ (ctx.parameterCandidate mined m i).identifiers ↔
      word = m.name ∨ word ∈ ownWords mined m := by
  show word ∈ m.name :: (Candidate.wordSet (ownWords mined m)).filter (· ≠ m.name) ↔ _
  rw [List.mem_cons, List.mem_filter, Candidate.mem_wordSet, decide_eq_true_eq]
  by_cases h : word = m.name
  · simp [h]
  · simp [h]

/-- The elements of the parameters are numbered. -/
theorem mem_parameterElements_iff {e : Element} :
    e ∈ ctx.parameterElements mined ↔
      ∃ i m, mined[i]? = some m ∧ e = ctx.parameterCandidate mined m i := by
  simp only [parameterElements, List.mem_map, Prod.exists, List.mem_zipIdx_iff_getElem?]
  constructor
  · rintro ⟨m, i, hm, rfl⟩
    exact ⟨i, m, hm, rfl⟩
  · rintro ⟨i, m, hm, rfl⟩
    exact ⟨m, i, hm, rfl⟩

/-- Elements of parameters at different places have different keys. -/
theorem identity_parameterElements_nodup :
    ((ctx.parameterElements mined).map Element.identity).Nodup := by
  have hplace : ∀ m n : MinedParameter, ∀ i j : Nat,
      (ctx.parameterCandidate mined m i).identity = (ctx.parameterCandidate mined n j).identity →
        i = j := by
    intro m n i j h
    have hnumber : Candidate.Key.number i = .number j :=
      (Candidate.Key.cons.inj (congrArg Prod.snd h)).1
    exact Int.ofNat_inj.1 (Candidate.Key.number.inj hnumber)
  rw [parameterElements, List.map_map, List.Nodup, List.pairwise_map]
  have hplaces : (mined.zipIdx.map Prod.snd).Nodup := by
    rw [List.zipIdx_map_snd]
    exact List.nodup_range' ..
  rw [List.Nodup, List.pairwise_map] at hplaces
  exact hplaces.imp fun hne h => hne (hplace _ _ _ _ h)

variable {type : TypeDecl} {executable : Executable}

/-- Parameters with names all stand in the pool, in order. -/
theorem ofKind_parameter (hnames : ∀ m ∈ mined, m.name ≠ "") :
    (Pool.ofOffers (ctx.offers member type executable mined)).ofKind .parameter =
      ctx.parameterElements mined := by
  -- the kind is part of the identity, so other kinds can be left out before repetitions are
  have hkind : ∀ e f : Element, e.identity = f.identity →
      decide (e.kind = .parameter) = decide (f.kind = .parameter) :=
    fun e f h => by rw [show e.kind = f.kind from congrArg Prod.fst h]
  have hparameters : ∀ e ∈ ctx.parameterElements mined, e.kind = .parameter ∧ e.isNamed := by
    intro e he
    obtain ⟨i, m, hm, rfl⟩ := mem_parameterElements_iff.1 he
    refine ⟨rfl, List.any_eq_true.2 ⟨m.name, List.mem_cons_self, ?_⟩⟩
    exact decide_eq_true (hnames m (List.mem_of_getElem? hm))
  have hcalls : ∀ e ∈ ctx.callElements member type executable, e.kind ≠ .parameter := by
    intro e he
    obtain ⟨m, -, rfl⟩ := List.mem_map.1 he
    unfold callElement
    split <;> exact fun h => nomatch h
  have hfields : ∀ e ∈ (ctx.program.fields type true).map (Candidate.fieldElement · ctx.receiver),
      e.kind ≠ .parameter := by
    intro e he
    obtain ⟨f, -, rfl⟩ := List.mem_map.1 he
    exact fun h => nomatch h
  have hfilter : ((ctx.offers member type executable mined).filter Element.isNamed).filter
      (fun e => e.kind = .parameter) = ctx.parameterElements mined := by
    rw [List.filter_filter, offers, List.filter_cons_of_neg (by simp [Candidate.typeElement]),
      List.filter_append, List.filter_append, List.filter_eq_self.2 fun e he => ?_,
      List.filter_eq_nil_iff.2 fun e he => ?_, List.filter_eq_nil_iff.2 fun e he => ?_]
    · simp
    · simp [hfields e he]
    · simp [hcalls e he]
    · simp [hparameters e he]
  rw [Pool.ofKind, Pool.elements_ofOffers, filter_distinctBy hkind, hfilter,
    distinctBy_eq_self identity_parameterElements_nodup]

end ProseGuard.Context
