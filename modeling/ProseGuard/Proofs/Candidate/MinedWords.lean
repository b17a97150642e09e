import ProseGuard.Proofs.Candidate.Documented

/-!
# Mined words

Which words beside its name designate a parameter. A word that is met in the comments on it once or
often counts alike, and one that is met in the comments on another parameter too is left to neither.
Main statement: `lists_ownHeads`, by which the words of an element are told by what the source of
propositions answers alone.
-/

namespace ProseGuard.Context

open Program (Parameter Executable TypeDecl)
open Comment (Member)
open Candidate (Element)

/-- A word heads a clause in one of the comments on a parameter. -/
def Heads (ctx : Context) (member : Member) (p : Parameter) (word : Text) : Prop :=
  word ≠ "" ∧ ∃ tag ∈ member.paramTags, tag.parameter = p.name ∧
    ∃ found, (ctx.source.read (Comment.supplySubject p.name tag.comment)).result = .ok found ∧
      ∃ clause ∈ found, clause.head = word

/-- An element stands for a parameter, and its words are the name of the parameter and then, in
ascending order, the others that head clauses in the comments on it and on no other parameter. -/
structure KeepsOwnHeads (ctx : Context) (member : Member) (i : Nat) (p : Parameter) (e : Element) :
    Prop where
  stands : ctx.StandsFor i p e
  words : ∃ words, e.identifiers = p.name :: words ∧ words.Pairwise (· < ·) ∧
    ∀ word, word ∈ words ↔ ctx.Heads member p word ∧ word ≠ p.name ∧
      ∀ q ∈ member.parameters, q ≠ p → ¬ ctx.Heads member q word

variable {ctx : Context} {member : Member} {mined : List MinedParameter}

/-- What was mined for a parameter are the words that head clauses in the comments on it. -/
theorem mem_words_iff_heads {p : Parameter} {m : MinedParameter} (h : ctx.minedFor member p = .ok m)
    {word : Text} : word ∈ m.words ↔ ctx.Heads member p word := by
  obtain ⟨-, -, hmine⟩ := minedFor_eq_ok_iff.1 h
  rw [result_mine, Run.result_mapM] at hmine
  obtain ⟨found, hfound, hwords⟩ := Run.map_eq_ok_iff.1 hmine
  have hread := Run.mapM_eq_ok_iff.1 hfound
  rw [← hwords, Candidate.mem_wordSet, List.mem_filter, decide_eq_true_eq, List.mem_map]
  constructor
  · rintro ⟨⟨clause, hclause, hhead⟩, hne⟩
    obtain ⟨answer, hanswer, hmem⟩ := List.mem_flatten.1 hclause
    obtain ⟨tag, htag, hresult⟩ := Run.exists_of_mem_right hread hanswer
    obtain ⟨htag, habout⟩ := List.mem_filter.1 htag
    exact ⟨hne, tag, htag, of_decide_eq_true habout, answer, hresult, clause, hmem, hhead⟩
  · rintro ⟨hne, tag, htag, habout, answer, hresult, clause, hmem, hhead⟩
    have htags : tag ∈ member.tagsFor p.name := List.mem_filter.2 ⟨htag, decide_eq_true habout⟩
    -- the source was asked about the tag, and it answers a text in one way
    obtain ⟨other, hother, hsame⟩ := Run.exists_of_mem_right hread.flip htags
    obtain rfl : answer = other := Except.ok.inj (hresult.symm.trans hsame)
    exact ⟨⟨clause, List.mem_flatten.2 ⟨answer, hother, hmem⟩, hhead⟩, hne⟩

/-- Where words were mined for all parameters, one of them owns what heads clauses in the comments
on it and on no other. -/
theorem ownWord_iff_heads (hmined : member.parameters.mapM (ctx.minedFor member) = .ok mined)
    {p : Parameter} (hp : p ∈ member.parameters) {word : Text} :
    ctx.OwnWord member p word ↔ ctx.Heads member p word ∧
      ∀ q ∈ member.parameters, q ≠ p → ¬ ctx.Heads member q word := by
  have hmines : ∀ q ∈ member.parameters,
      ctx.Mines member q word ↔ ctx.Heads member q word := by
    intro q hq
    obtain ⟨i, hi⟩ := List.getElem?_of_mem hq
    obtain ⟨m, hm⟩ := exists_mined hmined hi
    have hminedFor := Run.eq_ok_of_mapM hmined hi hm
    exact (mem_words_iff hminedFor).symm.trans (mem_words_iff_heads hminedFor)
  constructor
  · intro h
    refine ⟨(hmines p hp).1 h.mined, fun q hq hne hheads => ?_⟩
    exact hne (h.only q hq ((hmines q hq).2 hheads))
  · intro ⟨hheads, hothers⟩
    refine ⟨(hmines p hp).2 hheads, fun q hq hq' => ?_⟩
    by_contra hne
    exact hothers q hq hne ((hmines q hq).1 hq')

/-- The element made for a documented parameter keeps the words that are its own. -/
theorem keepsOwnHeads_parameterCandidate
    (hmined : member.parameters.mapM (ctx.minedFor member) = .ok mined)
    (hnames : (member.parameters.map (·.name)).Nodup) {i : Nat} {p : Parameter} {m : MinedParameter}
    (hp : member.parameters[i]? = some p) (hm : mined[i]? = some m) :
    ctx.KeepsOwnHeads member i p (ctx.parameterCandidate mined m i) where
  stands := standsFor_parameterCandidate (Run.eq_ok_of_mapM hmined hp hm)
  words := by
    obtain ⟨hname, -, -⟩ := minedFor_eq_ok_iff.1 (Run.eq_ok_of_mapM hmined hp hm)
    refine ⟨(Candidate.wordSet (ownWords mined m)).filter (· ≠ p.name), ?_,
      (Candidate.ascending_wordSet _).filter _, fun word => ?_⟩
    · show m.name :: (Candidate.wordSet (ownWords mined m)).filter (· ≠ m.name) = _
      rw [hname]
    · rw [List.mem_filter, Candidate.mem_wordSet, mem_ownWords_iff_ownWord hmined hnames hp hm,
        ownWord_iff_heads hmined (List.mem_of_getElem? hp), decide_eq_true_eq, and_assoc]
      exact and_congr_right fun _ => and_comm

/-- The parameters in the pool of a known member, whose names differ, have their names as words and
what only the comments on them say, unless reading a comment fails. -/
theorem lists_ownHeads {type : TypeDecl} {executable : Executable}
    (h : ctx.program.Resolves member type executable)
    (hnamed : ∀ p ∈ member.parameters, p.name ≠ "")
    (hnames : (member.parameters.map (·.name)).Nodup) :
    ctx.Collects member (ListsParameters member (ctx.KeepsOwnHeads member)) :=
  collects_parameters h hnamed fun _ hmined _ _ _ hp hm =>
    keepsOwnHeads_parameterCandidate hmined hnames hp hm

/-- Of the words in the comments on the bounds of a range, "high" is kept for the lower bound, and
"negative", which is met in both, for none. -/
theorem lists_ownHeads_rangeMember :
    rangeContext.program.Resolves rangeMember rangeType (.method betweenMethod) ∧
      (∀ p ∈ rangeMember.parameters, p.name ≠ "") ∧
      (rangeMember.parameters.map (·.name)).Nodup ∧
      ∃ pool, (rangeContext.collect rangeMember).result = .ok pool ∧
        ∃ e words, (pool.ofKind .parameter)[0]? = some e ∧
          e.identifiers = ("low" : Text) :: words ∧ ("high" : Text) ∈ words ∧
          ("negative" : Text) ∉ words := by
  have hnamed : ∀ p ∈ rangeMember.parameters, p.name ≠ "" := by decide
  have hnames : (rangeMember.parameters.map (·.name)).Nodup := by decide
  refine ⟨resolves_rangeMember, hnamed, hnames, ?_⟩
  have hlow : ∀ word, word ∈ (["high", "negative"] : List Text) ↔
      rangeContext.Heads rangeMember ⟨"low", "int"⟩ word :=
    fun _ => mem_words_iff_heads (Run.eq_ok_of_mapM (i := 0) mined_rangeMember rfl rfl)
  have hhigh : ∀ word, word ∈ (["negative"] : List Text) ↔
      rangeContext.Heads rangeMember ⟨"high", "int"⟩ word :=
    fun _ => mem_words_iff_heads (Run.eq_ok_of_mapM (i := 1) mined_rangeMember rfl rfl)
  rcases lists_ownHeads resolves_rangeMember hnamed hnames with
    ⟨pool, hpool, -, heach⟩ | ⟨failure, ⟨tag, -, hread⟩, -⟩
  · obtain ⟨e, he, -, words, hidentifiers, -, hmem⟩ := heach 0 ⟨"low", "int"⟩ rfl
    refine ⟨pool, hpool, e, words, he, hidentifiers, ?_, ?_⟩
    · refine (hmem _).2 ⟨(hlow _).1 (by decide), by decide, fun q hq hne => ?_⟩
      obtain rfl | rfl : q = ⟨"low", "int"⟩ ∨ q = ⟨"high", "int"⟩ := by
        simpa [rangeMember] using hq
      · exact absurd rfl hne
      · rw [← hhigh]
        decide
    · intro hword
      refine ((hmem _).1 hword).2.2 ⟨"high", "int"⟩ (by simp [rangeMember]) (by decide) ?_
      exact (hhigh _).1 List.mem_cons_self
  · cases hread

end ProseGuard.Context
