import ProseGuard.Proofs.Comment.Clause

/-!
# The parts of a sentence

There is one way to cut the words of a sentence at its first verb and behind the verbs and negations
that follow it (`IsCut.eq_ofWords`). Main statement: `sentence_partition`, which says what becomes of
the parts: no word is lost between subject, verbs and predicate, and the head of the clause is a
word of the predicate or its first verb.
-/

namespace ProseGuard.Comment

open Text (isBlank words trimMarks)

/-- The words are shared out: no verb stands in the subject, the group begins with a verb and holds
verbs and negations alone, and the predicate is what the first other word behind it begins. -/
structure IsCut (ws : List Text) (parts : Parts) : Prop where
  words_eq : ws = parts.subject ++ (parts.verbGroup ++ parts.predicate)
  subject : ∀ word ∈ parts.subject, folded word ∉ verbs
  first_verb : ∀ word ∈ parts.verbGroup.head?, folded word ∈ verbs
  group : ∀ word ∈ parts.verbGroup, folded word ∈ verbs ∨ folded word ∈ negations
  predicate_of_no_verb : parts.verbGroup = [] → parts.predicate = []
  predicate : ∀ word ∈ parts.predicate.head?, folded word ∉ verbs ∧ folded word ∉ negations

/-- The group ends with "has been" or "have been". -/
def IsPerfect (group : List Text) : Prop :=
  ∃ before verb been, group = before ++ [verb, been] ∧ (folded verb = "has" ∨ folded verb = "have") ∧
    folded been = "been"

/-- The words that can head a clause: the first content word of the predicate, or the first verb if
the predicate has no such word, without punctuation around it. -/
inductive Parts.IsHead (parts : Parts) : Text → Prop
  | content {before behind : List Text} {word : Text}
      (hpredicate : parts.predicate = before ++ word :: behind)
      (hbefore : ∀ other ∈ before, isContent other = false) (hword : isContent word) :
      IsHead parts (bare word)
  | verb {verb : Text} {rest : List Text} (hgroup : parts.verbGroup = verb :: rest)
      (hpredicate : ∀ word ∈ parts.predicate, isContent word = false) : IsHead parts (bare verb)

/-- What the parts of a sentence with a verb say. -/
structure Parts.Says (parts : Parts) (p : Proposition) : Prop where
  subject : p.subject = trimMarks " ," (Text.join " " parts.subject)
  predicate : ¬IsPerfect parts.verbGroup →
    p.predicate = trimMarks " ,.;" (Text.join " " parts.predicate)
  predicate_perfect : IsPerfect parts.verbGroup →
    p.predicate = trimMarks " ,.;" (Text.join " " ("been" :: parts.predicate))
  negated : p.negated ↔
    ∃ word ∈ parts.verbGroup, folded word ∈ negations ∨ folded word ∈ negativeVerbs
  head : parts.IsHead p.head
  head_ne_empty : p.head ≠ ""
  head_unbroken : ∀ c ∈ p.head, isBlank c = false

/-! ## Words of each kind -/

theorem isVerb_iff {word : Text} : isVerb word ↔ folded word ∈ verbs :=
  List.contains_iff_mem

theorem isVerb_eq_false_iff {word : Text} : isVerb word = false ↔ folded word ∉ verbs := by
  rw [← Bool.not_eq_true, isVerb_iff]

theorem negates_iff {word : Text} :
    negates word ↔ folded word ∈ negations ∨ folded word ∈ negativeVerbs := by
  rw [negates, Bool.or_eq_true, List.contains_iff_mem, List.contains_iff_mem]

/-- Verbs that hold a negation are verbs, so that a group has no third kind of words. -/
theorem inVerbGroup_iff {word : Text} :
    inVerbGroup word ↔ folded word ∈ verbs ∨ folded word ∈ negations := by
  have hnegative : negativeVerbs ⊆ verbs := by decide
  rw [inVerbGroup, Bool.or_eq_true, isVerb_iff, negates_iff]
  constructor
  · rintro (hverb | hnegation | hnegative')
    · exact .inl hverb
    · exact .inr hnegation
    · exact .inl (hnegative hnegative')
  · exact Or.imp_right .inl

theorem inVerbGroup_eq_false_iff {word : Text} :
    inVerbGroup word = false ↔ folded word ∉ verbs ∧ folded word ∉ negations := by
  rw [← Bool.not_eq_true, inVerbGroup_iff, not_or]

/-- No verb is made of punctuation alone. -/
theorem bare_ne_empty_of_isVerb {word : Text} (h : isVerb word) : bare word ≠ "" := by
  intro hempty
  have hfolded : folded word = "" := by rw [folded, hempty]; rfl
  rw [isVerb_iff, hfolded] at h
  exact absurd h (by decide)

/-! ## One way to cut -/

/-- A sentence without verbs is a subject. -/
theorem Parts.ofWords_of_verbless {ws : List Text} (h : ∀ word ∈ ws, isVerb word = false) :
    Parts.ofWords ws = ⟨ws, [], []⟩ := by
  have hplain : ∀ word ∈ ws, (!isVerb word) = true :=
    fun word hword => by rw [h word hword, Bool.not_false]
  rw [Parts.ofWords, List.dropWhile_eq_nil_iff.2 hplain, List.takeWhile_eq_self_iff.2 hplain]
  rfl

/-- A sentence has a first verb unless it has none. -/
theorem verbless_or_exists_verb (ws : List Text) :
    (∀ word ∈ ws, isVerb word = false) ∨ ∃ before verb behind, ws = before ++ verb :: behind ∧
      (∀ word ∈ before, isVerb word = false) ∧ isVerb verb := by
  cases hfirst : ws.find? isVerb with
  | none =>
      refine .inl fun word hword => Bool.eq_false_iff.2 ?_
      exact List.find?_eq_none.1 hfirst word hword
  | some verb =>
      obtain ⟨hverb, before, behind, hws, hbefore⟩ := List.find?_eq_some_iff_append.1 hfirst
      refine .inr ⟨before, verb, behind, hws, fun word hword => ?_, hverb⟩
      simpa using hbefore word hword

/-- Where no word is a verb, all of them go to the subject. -/
theorem IsCut.of_verbless {ws : List Text} (h : ∀ word ∈ ws, isVerb word = false) :
    IsCut ws ⟨ws, [], []⟩ where
  words_eq := (List.append_nil ws).symm
  subject word hword := isVerb_eq_false_iff.1 (h word hword)
  first_verb _ hword := nomatch hword
  group _ hword := absurd hword List.not_mem_nil
  predicate_of_no_verb _ := rfl
  predicate _ hword := nomatch hword

/-- The first verb ends the subject and opens the group. -/
theorem IsCut.of_verb {before : List Text} (hbefore : ∀ word ∈ before, isVerb word = false)
    {verb : Text} (hverb : isVerb verb) (behind : List Text) :
    IsCut (before ++ verb :: behind)
      ⟨before, verb :: behind.takeWhile inVerbGroup, behind.dropWhile inVerbGroup⟩ where
  words_eq := by rw [List.cons_append, List.takeWhile_append_dropWhile]
  subject word hword := isVerb_eq_false_iff.1 (hbefore word hword)
  first_verb word hword := isVerb_iff.1 (Option.some.inj hword ▸ hverb)
  group word hword := by
    rcases List.mem_cons.1 hword with rfl | hword
    · exact .inl (isVerb_iff.1 hverb)
    · exact inVerbGroup_iff.1 (List.mem_takeWhile_imp hword)
  predicate_of_no_verb hempty := absurd hempty (List.cons_ne_nil _ _)
  predicate word hword := by
    have hfirst := List.head?_dropWhile_not inVerbGroup behind
    rw [Option.mem_def.1 hword] at hfirst
    exact inVerbGroup_eq_false_iff.1 hfirst

/-- There is one such cut. -/
theorem IsCut.eq_ofWords {ws : List Text} {parts : Parts} (h : IsCut ws parts) :
    parts = Parts.ofWords ws := by
  have hsubject : ∀ word ∈ parts.subject, isVerb word = false :=
    fun word hword => isVerb_eq_false_iff.2 (h.subject word hword)
  obtain ⟨subject, group, predicate⟩ := parts
  cases group with
  | nil =>
      obtain rfl : predicate = [] := h.predicate_of_no_verb rfl
      obtain rfl : ws = subject := h.words_eq.trans (List.append_nil subject)
      exact (Parts.ofWords_of_verbless hsubject).symm
  | cons verb rest =>
      obtain rfl : ws = subject ++ (verb :: rest ++ predicate) := h.words_eq
      have hverb : isVerb verb := isVerb_iff.2 (h.first_verb verb rfl)
      have hfirst : (verb :: rest).head?.any isVerb := hverb
      exact (Parts.ofWords_append hsubject hfirst
        (fun word hword => inVerbGroup_iff.2 (h.group word hword))
        fun word hword => inVerbGroup_eq_false_iff.2 (h.predicate word hword)).symm

/-- The parts of a sentence are it. -/
theorem isCut_ofWords (ws : List Text) : IsCut ws (Parts.ofWords ws) := by
  rcases verbless_or_exists_verb ws with hverbless | ⟨before, verb, behind, rfl, hbefore, hverb⟩
  · have hcut := IsCut.of_verbless hverbless
    exact hcut.eq_ofWords ▸ hcut
  · have hcut := IsCut.of_verb hbefore hverb behind
    exact hcut.eq_ofWords ▸ hcut

/-! ## What the parts say -/

/-- The perfect shows in the last two words of a group. -/
theorem endsInPerfect_iff {group : List Text} : endsInPerfect group ↔ IsPerfect group := by
  obtain ⟨reversed, rfl⟩ : ∃ reversed : List Text, group = reversed.reverse :=
    ⟨group.reverse, group.reverse_reverse.symm⟩
  unfold endsInPerfect IsPerfect
  rw [List.reverse_reverse]
  constructor
  · intro h
    match reversed, h with
    | been :: verb :: before, h =>
      simp only [List.map_cons, Bool.and_eq_true, Bool.or_eq_true, decide_eq_true_eq] at h
      exact ⟨before.reverse, verb, been, by simp, h.2, h.1⟩
  · rintro ⟨before, verb, been, hreversed, hverb, hbeen⟩
    obtain rfl : reversed = been :: verb :: before.reverse := by
      rw [← List.reverse_inj, hreversed]
      simp
    simp [hverb, hbeen]

/-- The word "been" that leads a predicate does not head it. -/
theorem Parts.find?_predicateWords (parts : Parts) :
    parts.predicateWords.find? isContent = parts.predicate.find? isContent := by
  have hbeen : ¬isContent "been" = true := by decide
  unfold Parts.predicateWords
  split
  · exact List.find?_cons_of_neg hbeen
  · rfl

/-- The head of a clause is its first content word or its first verb. -/
theorem Parts.isHead_head {parts : Parts} {verb : Text} {rest : List Text}
    (h : parts.verbGroup = verb :: rest) : parts.IsHead parts.head := by
  rw [Parts.head, parts.find?_predicateWords]
  cases hfind : parts.predicate.find? isContent with
  | some word =>
      obtain ⟨hword, before, behind, hpredicate, hbefore⟩ := List.find?_eq_some_iff_append.1 hfind
      exact .content hpredicate (fun other hother => by simpa using hbefore other hother) hword
  | none =>
      have hnone : ∀ word ∈ parts.predicate, isContent word = false :=
        fun word hword => Bool.eq_false_iff.2 (List.find?_eq_none.1 hfind word hword)
      rw [h]
      exact .verb h hnone

/-- What a clause is headed by is not punctuation alone. -/
theorem IsCut.head_ne_empty {ws : List Text} {parts : Parts} (h : IsCut ws parts) {head : Text}
    (hhead : parts.IsHead head) : head ≠ "" := by
  cases hhead with
  | content hpredicate hbefore hword =>
      rw [isContent, Bool.and_eq_true] at hword
      exact of_decide_eq_true hword.1
  | verb hgroup hpredicate =>
      refine bare_ne_empty_of_isVerb (isVerb_iff.2 (h.first_verb _ ?_))
      rw [hgroup, List.head?_cons, Option.mem_some_iff]

/-- A clause is headed by a part of a word. -/
theorem IsCut.exists_word_of_head {ws : List Text} {parts : Parts} (h : IsCut ws parts) {head : Text}
    (hhead : parts.IsHead head) : ∃ word ∈ ws, head ⊆ word := by
  have hbare : ∀ word : Text, bare word ⊆ word := fun word => Text.trimWhere_subset _ word
  rw [h.words_eq]
  cases hhead with
  | content hpredicate hbefore hword => exact ⟨_, by simp [hpredicate], hbare _⟩
  | verb hgroup hpredicate => exact ⟨_, by simp [hgroup], hbare _⟩

/-- What the parts of a sentence with a verb say. -/
def Parts.proposition (parts : Parts) : Proposition where
  subject := trimMarks sentenceMargin (Text.join " " parts.subject)
  predicate := trimMarks sentenceNoise (Text.join " " parts.predicateWords)
  negated := parts.verbGroup.any negates
  head := parts.head

/-- A sentence with a verb says what its parts say. -/
theorem ofSentence?_of_verbs {sentence : Text} {parts : Parts} (hcut : IsCut (words sentence) parts)
    (hgroup : parts.verbGroup ≠ []) :
    Proposition.ofSentence? sentence = some parts.proposition := by
  have hwords : words sentence ≠ [] := by
    intro hnil
    have hempty := hcut.words_eq
    rw [hnil, List.nil_eq, List.append_eq_nil_iff, List.append_eq_nil_iff] at hempty
    exact hgroup hempty.2.1
  rw [Proposition.ofSentence?]
  simp only [← hcut.eq_ofWords, List.isEmpty_eq_false_iff.2 hwords,
    List.isEmpty_eq_false_iff.2 hgroup, Bool.false_eq_true, if_false]
  rfl

/-- A sentence without one is a subject. -/
theorem ofSentence?_of_no_verb {sentence : Text} {parts : Parts}
    (hcut : IsCut (words sentence) parts) (hwords : words sentence ≠ [])
    (hgroup : parts.verbGroup = []) :
    Proposition.ofSentence? sentence = some {
      subject := trimMarks sentenceMargin sentence
      predicate := ""
      head := nounPhraseHead (words sentence) } := by
  rw [Proposition.ofSentence?]
  simp only [← hcut.eq_ofWords, List.isEmpty_eq_false_iff.2 hwords, hgroup, List.isEmpty_nil,
    Bool.false_eq_true, if_false, if_true]

/-- The proposition of a group of verbs says what its parts say. -/
theorem IsCut.says_proposition {sentence : Text} {parts : Parts}
    (h : IsCut (words sentence) parts) (hgroup : parts.verbGroup ≠ []) :
    parts.Says parts.proposition := by
  obtain ⟨verb, rest, hverb⟩ := List.exists_cons_of_ne_nil hgroup
  have hhead : parts.IsHead parts.head := Parts.isHead_head hverb
  refine ⟨rfl, fun hperfect => ?_, fun hperfect => ?_, ?_, hhead, h.head_ne_empty hhead, ?_⟩
  · rw [← endsInPerfect_iff] at hperfect
    rw [Parts.proposition, Parts.predicateWords, if_neg hperfect]
    rfl
  · rw [← endsInPerfect_iff] at hperfect
    rw [Parts.proposition, Parts.predicateWords, if_pos hperfect]
    rfl
  · show parts.verbGroup.any negates ↔ _
    simp only [List.any_eq_true, negates_iff]
  · obtain ⟨word, hword, hsub⟩ := h.exists_word_of_head hhead
    exact fun c hc => Text.not_isBlank_of_mem_words hword c (hsub hc)

/-- The words of a sentence are shared out in one way among a subject, verbs and a predicate. Without
a verb the sentence is a subject of which nothing is said; else each part goes to its place in the
proposition. -/
theorem sentence_partition {sentence : Text} (h : words sentence ≠ []) :
    ∃ parts p, IsCut (words sentence) parts ∧
      (∀ other, IsCut (words sentence) other → other = parts) ∧
      Proposition.ofSentence? sentence = some p ∧
      (parts.verbGroup = [] →
        p.subject = trimMarks " ," sentence ∧ p.predicate = "" ∧ p.negated = false) ∧
      (parts.verbGroup ≠ [] → parts.Says p) := by
  have hcut := isCut_ofWords (words sentence)
  by_cases hgroup : (Parts.ofWords (words sentence)).verbGroup = []
  · refine ⟨_, _, hcut, fun other hother => hother.eq_ofWords,
      ofSentence?_of_no_verb hcut h hgroup, fun _ => ⟨rfl, rfl, rfl⟩, fun hverbs => ?_⟩
    exact absurd hgroup hverbs
  · exact ⟨_, _, hcut, fun other hother => hother.eq_ofWords, ofSentence?_of_verbs hcut hgroup,
      fun hempty => absurd hempty hgroup, fun _ => hcut.says_proposition hgroup⟩

/-- Quoted and bracketed words are told by what stands between the marks. -/
theorem sentence_partition_listener :
    words "(The listener), HAS \"never\" been the 'Set'." ≠ [] ∧
      ∃ parts : Parts, parts.verbGroup = ["HAS", "\"never\"", "been"] ∧
        parts.Says ⟨"(The listener)", "the 'Set'", true, "Set"⟩ := by
  have hwords : words "(The listener), HAS \"never\" been the 'Set'." ≠ [] := by decide
  refine ⟨hwords, ?_⟩
  obtain ⟨parts, p, -, hunique, hp, -, hsays⟩ := sentence_partition hwords
  have hgroup : parts.verbGroup = ["HAS", "\"never\"", "been"] := by
    rw [← hunique _ (isCut_ofWords _)]
    decide
  have hread : Proposition.ofSentence? "(The listener), HAS \"never\" been the 'Set'." =
      some ⟨"(The listener)", "the 'Set'", true, "Set"⟩ := by
    decide
  obtain rfl := Option.some.inj (hp.symm.trans hread)
  exact ⟨parts, hgroup, hsays (by rw [hgroup]; exact List.cons_ne_nil _ _)⟩

end ProseGuard.Comment
