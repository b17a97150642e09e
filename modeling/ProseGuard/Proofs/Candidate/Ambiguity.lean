import ProseGuard.Proofs.Candidate.Parameters
import ProseGuard.Proofs.Candidate.Words

/-!
# Ambiguous parameters

When a text can name two parameters of one member. Words that the comments on several parameters
yield are left out, but they are told apart by case, which matching is not, and they are not
compared with the declared names. Main statement: `unambiguous_iff`, which says that these are the
only ways left.
-/

namespace ProseGuard

open Program (Parameter Executable TypeDecl)
open Comment (Member)
open Candidate (Element Pool)

/-- No text is at no distance from two parameters of a pool. -/
def Candidate.Pool.Unambiguous (pool : Pool) : Prop :=
  ∀ text, ∀ e ∈ pool.ofKind .parameter, ∀ f ∈ pool.ofKind .parameter,
    e.distance text = 0 → f.distance text = 0 → e = f

namespace Context

/-- A word is mined from the comments on a parameter. -/
def Mines (ctx : Context) (member : Member) (p : Parameter) (word : Text) : Prop :=
  ∃ words, (ctx.mine member p.name).result = .ok words ∧ word ∈ words

/-- A word is mined from the comments on one parameter and from those on no other. -/
structure OwnWord (ctx : Context) (member : Member) (p : Parameter) (word : Text) : Prop where
  mined : ctx.Mines member p word
  only : ∀ q ∈ member.parameters, ctx.Mines member q word → q = p

/-- A text is, case aside, the name of a parameter or one of the words that it owns. -/
def Designates (ctx : Context) (member : Member) (p : Parameter) (text : Text) : Prop :=
  Text.lower p.name = Text.lower text ∨
    ∃ word, ctx.OwnWord member p word ∧ Text.lower word = Text.lower text

/-- The words that parameters own differ from the names and the words of others by more than
case. -/
structure WordsApart (ctx : Context) (member : Member) : Prop where
  from_names : ∀ p ∈ member.parameters, ∀ q ∈ member.parameters, p ≠ q →
    ∀ word, ctx.OwnWord member p word → Text.lower word ≠ Text.lower q.name
  from_words : ∀ p ∈ member.parameters, ∀ q ∈ member.parameters, p ≠ q →
    ∀ v w, ctx.OwnWord member p v → ctx.OwnWord member q w → Text.lower v ≠ Text.lower w

variable {ctx : Context} {member : Member} {mined : List MinedParameter}

/-- The words of a mined parameter are those mined from its comments. -/
theorem mem_words_iff {p : Parameter} {m : MinedParameter} (h : ctx.minedFor member p = .ok m)
    {word : Text} : word ∈ m.words ↔ ctx.Mines member p word := by
  obtain ⟨-, -, hwords⟩ := minedFor_eq_ok_iff.1 h
  constructor
  · exact fun hmem => ⟨m.words, hwords, hmem⟩
  · rintro ⟨words, hmine, hmem⟩
    rw [hwords] at hmine
    exact Except.ok.inj hmine ▸ hmem

section Mined

variable (hmined : member.parameters.mapM (ctx.minedFor member) = .ok mined)

include hmined

/-- Every mined parameter stands where a documented one does. -/
theorem exists_parameter {i : Nat} {m : MinedParameter} (hm : mined[i]? = some m) :
    ∃ p, member.parameters[i]? = some p := by
  obtain ⟨hi, -⟩ := List.getElem?_eq_some_iff.1 hm
  have hlength := Run.length_eq_of_mapM hmined
  exact ⟨_, List.getElem?_eq_getElem (by omega)⟩

/-- For every documented parameter something was mined. -/
theorem exists_mined {i : Nat} {p : Parameter} (hp : member.parameters[i]? = some p) :
    ∃ m, mined[i]? = some m := by
  obtain ⟨hi, -⟩ := List.getElem?_eq_some_iff.1 hp
  have hlength := Run.length_eq_of_mapM hmined
  exact ⟨_, List.getElem?_eq_getElem (by omega)⟩

variable (hnames : (member.parameters.map (·.name)).Nodup)

include hnames

/-- The words that a mined parameter keeps are its own. -/
theorem mem_ownWords_iff_ownWord {i : Nat} {p : Parameter} {m : MinedParameter}
    (hp : member.parameters[i]? = some p) (hm : mined[i]? = some m) {word : Text} :
    word ∈ ownWords mined m ↔ ctx.OwnWord member p word := by
  have hmnames : (mined.map (·.name)).Nodup := by
    have := congrArg (List.map Prod.fst) (ctx.names_of_mined member hmined)
    rw [List.map_map, List.map_map] at this
    exact this ▸ hnames
  rw [mem_ownWords_iff hmnames (List.mem_of_getElem? hm),
    mem_words_iff (Run.eq_ok_of_mapM hmined hp hm)]
  constructor
  · rintro ⟨hmines, honly⟩
    refine ⟨hmines, fun q hq hqmines => ?_⟩
    obtain ⟨j, hj⟩ := List.getElem?_of_mem hq
    obtain ⟨n, hn⟩ := exists_mined hmined hj
    have hnm : n = m := honly n (List.mem_of_getElem? hn)
      ((mem_words_iff (Run.eq_ok_of_mapM hmined hj hn)).2 hqmines)
    obtain rfl : j = i := place_unique (hmnames.of_map _) hn (hnm ▸ hm)
    exact Option.some.inj (hj.symm.trans hp)
  · rintro ⟨hmines, honly⟩
    refine ⟨hmines, fun n hn hnword => ?_⟩
    obtain ⟨j, hj⟩ := List.getElem?_of_mem hn
    obtain ⟨q, hq⟩ := exists_parameter hmined hj
    have hqp : q = p := honly q (List.mem_of_getElem? hq)
      ((mem_words_iff (Run.eq_ok_of_mapM hmined hq hj)).1 hnword)
    obtain rfl : j = i := place_unique (hnames.of_map _) hq (hqp ▸ hp)
    exact Option.some.inj (hj.symm.trans hm)

/-- A text is at no distance from a parameter exactly when it designates it. -/
theorem distance_parameterCandidate_eq_zero_iff {i : Nat} {p : Parameter} {m : MinedParameter}
    (hp : member.parameters[i]? = some p) (hm : mined[i]? = some m) {text : Text} :
    (ctx.parameterCandidate mined m i).distance text = 0 ↔ ctx.Designates member p text := by
  obtain ⟨hname, -, -⟩ := minedFor_eq_ok_iff.1 (Run.eq_ok_of_mapM hmined hp hm)
  simp only [Element.distance_eq_zero_iff, mem_identifiers_iff, hname, Designates,
    mem_ownWords_iff_ownWord hmined hnames hp hm, or_and_right, exists_or, exists_eq_left]

/-- No text is at no distance from two parameters exactly when none designates two. -/
theorem parameterElements_unique_iff :
    (∀ text, ∀ e ∈ ctx.parameterElements mined, ∀ f ∈ ctx.parameterElements mined,
      e.distance text = 0 → f.distance text = 0 → e = f) ↔
    ∀ text, ∀ p ∈ member.parameters, ∀ q ∈ member.parameters,
      ctx.Designates member p text → ctx.Designates member q text → p = q := by
  refine forall_congr' fun text => ⟨fun hunique p hp q hq hpt hqt => ?_,
    fun hunique e he f hf het hft => ?_⟩
  · obtain ⟨i, hi⟩ := List.getElem?_of_mem hp
    obtain ⟨j, hj⟩ := List.getElem?_of_mem hq
    obtain ⟨m, hm⟩ := exists_mined hmined hi
    obtain ⟨n, hn⟩ := exists_mined hmined hj
    have heq := hunique _ (mem_parameterElements_iff.2 ⟨i, m, hm, rfl⟩)
      _ (mem_parameterElements_iff.2 ⟨j, n, hn, rfl⟩)
      ((distance_parameterCandidate_eq_zero_iff hmined hnames hi hm).2 hpt)
      ((distance_parameterCandidate_eq_zero_iff hmined hnames hj hn).2 hqt)
    obtain rfl : i = j := Int.ofNat_inj.1 (Option.some.inj (congrArg Element.index heq))
    exact Option.some.inj (hi.symm.trans hj)
  · obtain ⟨i, m, hm, rfl⟩ := mem_parameterElements_iff.1 he
    obtain ⟨j, n, hn, rfl⟩ := mem_parameterElements_iff.1 hf
    obtain ⟨p, hp⟩ := exists_parameter hmined hm
    obtain ⟨q, hq⟩ := exists_parameter hmined hn
    obtain rfl := hunique p (List.mem_of_getElem? hp) q (List.mem_of_getElem? hq)
      ((distance_parameterCandidate_eq_zero_iff hmined hnames hp hm).1 het)
      ((distance_parameterCandidate_eq_zero_iff hmined hnames hq hn).1 hft)
    obtain rfl : i = j := place_unique (hnames.of_map _) hp hq
    rw [Option.some.inj (hm.symm.trans hn)]

end Mined

/-- Where the names differ by more than case, only owned words can designate two parameters. -/
theorem designates_unique_iff
    (hdistinct : (member.parameters.map fun p => Text.lower p.name).Nodup) :
    (∀ text, ∀ p ∈ member.parameters, ∀ q ∈ member.parameters,
      ctx.Designates member p text → ctx.Designates member q text → p = q) ↔
    ctx.WordsApart member := by
  constructor
  · refine fun hunique => ⟨fun p hp q hq hne word hword heq => ?_,
      fun p hp q hq hne v w hv hw heq => ?_⟩
    · exact hne (hunique word p hp q hq (.inr ⟨word, hword, rfl⟩) (.inl heq.symm))
    · exact hne (hunique w p hp q hq (.inr ⟨v, hv, heq⟩) (.inr ⟨w, hw, rfl⟩))
  · rintro ⟨hfromNames, hfromWords⟩ text p hp q hq hpt hqt
    -- name against name, name against word, and word against word
    by_contra hne
    rcases hpt with hpt | ⟨v, hv, hvt⟩ <;> rcases hqt with hqt | ⟨w, hw, hwt⟩
    · exact hne (List.inj_on_of_nodup_map hdistinct hp hq (hpt.trans hqt.symm))
    · exact hfromNames q hq p hp (Ne.symm hne) w hw (hwt.trans hpt.symm)
    · exact hfromNames p hp q hq hne v hv (hvt.trans hqt.symm)
    · exact hfromWords p hp q hq hne v w hv hw (hvt.trans hwt.symm)

/-- The parameters of a pool, whose names differ by more than case, are unambiguous exactly when the
words that they own are apart from each other and from the names. -/
theorem unambiguous_iff {type : TypeDecl} {executable : Executable} {pool : Pool}
    (h : ctx.program.Resolves member type executable)
    (hnamed : ∀ p ∈ member.parameters, p.name ≠ "")
    (hdistinct : (member.parameters.map fun p => Text.lower p.name).Nodup)
    (hpool : (ctx.collect member).result = .ok pool) :
    pool.Unambiguous ↔ ctx.WordsApart member := by
  have hnames : (member.parameters.map (·.name)).Nodup := by
    rw [← Function.comp_def Text.lower, ← List.map_map] at hdistinct
    exact hdistinct.of_map _
  rw [ctx.result_collect member h] at hpool
  cases hmined : member.parameters.mapM (ctx.minedFor member) with
  | error e => simp [hmined] at hpool
  | ok mined =>
      rw [hmined, Run.ok_map] at hpool
      cases hpool
      have hparameters : ∀ m ∈ mined, m.name ≠ "" := by
        intro m hm
        obtain ⟨i, hi⟩ := List.getElem?_of_mem hm
        obtain ⟨p, hp⟩ := exists_parameter hmined hi
        obtain ⟨hname, -, -⟩ := minedFor_eq_ok_iff.1 (Run.eq_ok_of_mapM hmined hp hi)
        exact hname ▸ hnamed p (List.mem_of_getElem? hp)
      rw [Candidate.Pool.Unambiguous, ofKind_parameter hparameters,
        parameterElements_unique_iff hmined hnames, designates_unique_iff hdistinct]

/-- The range with a comment on its lower bound that speaks of no other parameter. -/
def plainRangeMember : Member :=
  { rangeMember with paramTags := [⟨"low", "must not be negative"⟩] }

/-- Where a comment speaks of its own parameter alone, no text is at no distance from two. -/
theorem unambiguous_plainRangeMember :
    rangeContext.program.Resolves plainRangeMember rangeType (.method betweenMethod) ∧
      (∀ p ∈ plainRangeMember.parameters, p.name ≠ "") ∧
      (plainRangeMember.parameters.map fun p => Text.lower p.name).Nodup ∧
      ∃ pool, (rangeContext.collect plainRangeMember).result = .ok pool ∧ pool.Unambiguous := by
  have hresolves : rangeContext.program.Resolves plainRangeMember rangeType
      (.method betweenMethod) := ⟨resolves_rangeMember.1, resolves_rangeMember.2⟩
  have hnamed : ∀ p ∈ plainRangeMember.parameters, p.name ≠ "" := by decide
  have hdistinct : (plainRangeMember.parameters.map fun p => Text.lower p.name).Nodup := by
    decide
  have hmined : plainRangeMember.parameters.mapM (rangeContext.minedFor plainRangeMember) =
      .ok [⟨"low", "int", ["negative"]⟩, ⟨"high", "int", []⟩] := by
    rw [Run.mapM_eq_ok_iff]
    refine .cons (minedFor_eq_ok_iff.2 ⟨rfl, rfl, ?_⟩)
      (.cons (minedFor_eq_ok_iff.2 ⟨rfl, rfl, ?_⟩) .nil)
    · exact congrArg Except.ok (by decide)
    · exact congrArg Except.ok (by decide)
  have howned : ∀ p ∈ plainRangeMember.parameters, ∀ word,
      rangeContext.OwnWord plainRangeMember p word → p = ⟨"low", "int"⟩ ∧ word = "negative" := by
    intro p hp word hword
    have hmines := hword.mined
    obtain rfl | rfl : p = ⟨"low", "int"⟩ ∨ p = ⟨"high", "int"⟩ := by
      simpa [plainRangeMember, rangeMember] using hp
    · rw [← mem_words_iff (Run.eq_ok_of_mapM (i := 0) hmined rfl rfl)] at hmines
      exact ⟨rfl, List.mem_singleton.1 hmines⟩
    · rw [← mem_words_iff (Run.eq_ok_of_mapM (i := 1) hmined rfl rfl)] at hmines
      exact absurd hmines List.not_mem_nil
  have happart : rangeContext.WordsApart plainRangeMember := by
    refine ⟨fun p hp q hq hne word hword heq => ?_, fun p hp q hq hne v w hv hw heq => ?_⟩
    · obtain ⟨rfl, rfl⟩ := howned p hp word hword
      revert q
      decide
    · exact hne ((howned p hp v hv).1.trans (howned q hq w hw).1.symm)
  have hpool := rangeContext.result_collect plainRangeMember hresolves
  rw [hmined, Run.ok_map] at hpool
  exact ⟨hresolves, hnamed, hdistinct, _, hpool,
    (unambiguous_iff hresolves hnamed hdistinct hpool).2 happart⟩

/-- In the comment on the bounds of a range, the word "high" names the lower bound too. -/
theorem not_unambiguous_rangePool :
    rangeContext.program.Resolves rangeMember rangeType (.method betweenMethod) ∧
      (∀ p ∈ rangeMember.parameters, p.name ≠ "") ∧
      (rangeMember.parameters.map fun p => Text.lower p.name).Nodup ∧
      (rangeContext.collect rangeMember).result = .ok rangePool ∧
      ¬ rangePool.Unambiguous := by
  refine ⟨resolves_rangeMember, by decide, by decide, collect_rangeMember, ?_⟩
  intro h
  have hsame := h "high"
    (Candidate.parameterElement "low" 0 "int" ["high"] true) (by decide)
    (Candidate.parameterElement "high" 1 "int" [] true) (by decide)
    (by decide) (by decide)
  exact absurd hsame (by decide)

end Context

end ProseGuard
