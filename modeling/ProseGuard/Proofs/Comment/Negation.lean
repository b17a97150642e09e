import ProseGuard.Proofs.Comment.Parts

/-!
# Denied sentences

A sentence is denied by the word "not" behind its first verb. Subject, head and predicate stay as
they are and the proposition is negated (`proposition_denied`), with one exception: a sentence whose
verbs are "has been" or "have been" loses the "been" of its predicate, because the perfect is told by
the last two words of the group.
-/

namespace ProseGuard.Comment

open Text (isBlank words trimMarks)

/-- The words with "not" behind the first verb. -/
def withNot : List Text → List Text
  | [] => []
  | word :: ws => if isVerb word then word :: "not" :: ws else word :: withNot ws

/-- The sentence with "not" behind its first verb, its words separated by single spaces. -/
def denied (sentence : Text) : Text :=
  Text.join " " (withNot (words sentence))

/-- The group is "has been" or "have been" and no more. -/
def IsBarePerfect (group : List Text) : Prop :=
  IsPerfect group ∧ group.length = 2

/-! ## Words -/

/-- The first verb is where "not" goes. -/
theorem withNot_append {before : List Text} (hbefore : ∀ word ∈ before, isVerb word = false)
    {verb : Text} (hverb : isVerb verb) (behind : List Text) :
    withNot (before ++ verb :: behind) = before ++ verb :: "not" :: behind := by
  induction before with
  | nil => exact if_pos hverb
  | cons word before ih =>
      have hword : ¬isVerb word = true := Bool.eq_false_iff.1 (hbefore word List.mem_cons_self)
      rw [List.cons_append, withNot, if_neg hword,
        ih fun other hother => hbefore other (List.mem_cons_of_mem _ hother)]
      rfl

/-- No other word comes in. -/
theorem eq_not_or_mem_of_mem_withNot {ws : List Text} {word : Text} (h : word ∈ withNot ws) :
    word = "not" ∨ word ∈ ws := by
  induction ws with
  | nil => exact absurd h List.not_mem_nil
  | cons first ws ih =>
      rw [withNot] at h
      split at h
      · simpa [or_left_comm] using h
      · rcases List.mem_cons.1 h with rfl | h
        · exact .inr List.mem_cons_self
        · exact (ih h).imp_right (List.mem_cons_of_mem _)

/-- The words of a denied sentence are those of the sentence and "not". -/
theorem words_denied (sentence : Text) : words (denied sentence) = withNot (words sentence) := by
  refine Text.words_join fun word hword => ?_
  rcases eq_not_or_mem_of_mem_withNot hword with rfl | hword
  · decide
  · exact ⟨Text.mem_words_ne_nil hword, Text.not_isBlank_of_mem_words hword⟩

/-! ## Groups of verbs -/

/-- Two words are perfect by themselves. -/
theorem IsPerfect.of_pair {first second : Text} (h : IsPerfect [first, second]) :
    (folded first = "has" ∨ folded first = "have") ∧ folded second = "been" := by
  obtain ⟨before, verb, been, hgroup, hperfect⟩ := h
  rw [← List.nil_append [first, second]] at hgroup
  obtain ⟨-, hpair⟩ := List.append_inj' hgroup rfl
  cases hpair
  exact hperfect

/-- A word before two others does not tell whether a group is perfect. -/
theorem isPerfect_cons_iff {word : Text} {group : List Text} (h : 2 ≤ group.length) :
    IsPerfect (word :: group) ↔ IsPerfect group := by
  constructor
  · intro hperfect
    obtain ⟨before, verb, been, hgroup, hwords⟩ := hperfect
    cases before with
    | nil =>
        have hlength := congrArg List.length hgroup
        simp only [List.length_cons, List.nil_append, List.length_nil] at hlength
        omega
    | cons first before => exact ⟨before, verb, been, (List.cons.inj hgroup).2, hwords⟩
  · intro hperfect
    obtain ⟨before, verb, been, rfl, hwords⟩ := hperfect
    exact ⟨word :: before, verb, been, rfl, hwords⟩

/-- With "not" behind its first word a group is perfect if it was and has more than two words. -/
theorem isPerfect_not_iff (verb : Text) (rest : List Text) :
    IsPerfect (verb :: "not" :: rest) ↔
      IsPerfect (verb :: rest) ∧ ¬IsBarePerfect (verb :: rest) := by
  match rest with
  | [] =>
      have hnot : ¬IsPerfect [verb, "not"] := fun h => absurd h.of_pair.2 (by decide)
      have hsingle : ¬IsPerfect [verb] := by
        intro h
        obtain ⟨before, first, second, hgroup, -⟩ := h
        have hlength := congrArg List.length hgroup
        simp only [List.length_append, List.length_cons, List.length_nil] at hlength
        omega
      exact iff_of_false hnot fun h => hsingle h.1
  | [word] =>
      have hnot : ¬IsPerfect ["not", word] := fun h => absurd h.of_pair.1 (by decide)
      rw [isPerfect_cons_iff (by simp)]
      exact iff_of_false hnot fun h => h.2 ⟨h.1, rfl⟩
  | word :: next :: rest =>
      have hlong : ¬IsBarePerfect (verb :: word :: next :: rest) := by
        intro h
        have hlength := h.2
        simp only [List.length_cons] at hlength
        omega
      have htwo : 2 ≤ (word :: next :: rest).length := Nat.le_add_left 2 rest.length
      have hthree : 2 ≤ ("not" :: word :: next :: rest : List Text).length :=
        Nat.le_succ_of_le htwo
      rw [isPerfect_cons_iff hthree, isPerfect_cons_iff htwo, isPerfect_cons_iff htwo,
        and_iff_left hlong]

/-! ## Predicates -/

/-- The word "been" before a predicate shows. -/
theorem trimMarks_been_ne (predicate : List Text) :
    trimMarks sentenceNoise (Text.join " " ("been" :: predicate)) ≠
      trimMarks sentenceNoise (Text.join " " predicate) := by
  have hfirst : sentenceNoise.contains ('b' : Point) = false := by decide
  cases predicate with
  | nil => exact Text.trimWhere_append_ne hfirst "een" []
  | cons word predicate =>
      have hjoin : Text.join " " ("been" :: word :: predicate) =
          "been " ++ Text.join " " (word :: predicate) := List.intercalate_cons_cons
      rw [hjoin]
      exact Text.trimWhere_append_ne hfirst "een " _

/-- Where "not" joins a group of verbs the predicate is the same unless the group is "has been" or
"have been". -/
theorem predicate_not {subject predicate rest : List Text} {verb : Text} {p q : Proposition}
    (hp : Parts.Says ⟨subject, verb :: rest, predicate⟩ p)
    (hq : Parts.Says ⟨subject, verb :: "not" :: rest, predicate⟩ q) :
    (¬IsBarePerfect (verb :: rest) → q.predicate = p.predicate) ∧
      (IsBarePerfect (verb :: rest) →
        p.predicate = trimMarks " ,.;" (Text.join " " ("been" :: predicate)) ∧
        q.predicate = trimMarks " ,.;" (Text.join " " predicate)) := by
  have hiff := isPerfect_not_iff verb rest
  constructor
  · intro hbare
    by_cases hperfect : IsPerfect (verb :: rest)
    · have hdenied := hiff.2 ⟨hperfect, hbare⟩
      exact (hq.predicate_perfect hdenied).trans (hp.predicate_perfect hperfect).symm
    · have hdenied : ¬IsPerfect (verb :: "not" :: rest) := fun h => hperfect (hiff.1 h).1
      exact (hq.predicate hdenied).trans (hp.predicate hperfect).symm
  · intro hbare
    have hdenied : ¬IsPerfect (verb :: "not" :: rest) := fun h => (hiff.1 h).2 hbare
    exact ⟨hp.predicate_perfect hbare.1, hq.predicate hdenied⟩

/-- Denying a sentence with a verb keeps its subject and its head and negates what it says. It keeps
the predicate exactly if the verbs are not "has been" or "have been" alone; if they are, the
predicate loses the "been" that leads it. -/
theorem proposition_denied {sentence : Text} (h : ∃ word ∈ words sentence, isVerb word) :
    ∃ parts p q, IsCut (words sentence) parts ∧
      Proposition.ofSentence? sentence = some p ∧
      Proposition.ofSentence? (denied sentence) = some q ∧
      q.subject = p.subject ∧ q.head = p.head ∧ q.negated ∧
      (q.predicate = p.predicate ↔ ¬IsBarePerfect parts.verbGroup) ∧
      (IsBarePerfect parts.verbGroup →
        p.predicate = trimMarks " ,.;" (Text.join " " ("been" :: parts.predicate)) ∧
        q.predicate = trimMarks " ,.;" (Text.join " " parts.predicate)) := by
  rcases verbless_or_exists_verb (words sentence) with
    hverbless | ⟨before, verb, behind, hwords, hbefore, hverb⟩
  · obtain ⟨word, hword, hverb⟩ := h
    rw [hverbless word hword] at hverb
    exact nomatch hverb
  · have hin : inVerbGroup "not" = true := by decide
    have hcut := IsCut.of_verb hbefore hverb behind
    have hcutNot := IsCut.of_verb hbefore hverb ("not" :: behind)
    rw [← hwords] at hcut
    rw [← withNot_append hbefore hverb, ← hwords, ← words_denied,
      List.takeWhile_cons_of_pos hin, List.dropWhile_cons_of_pos hin] at hcutNot
    generalize behind.takeWhile inVerbGroup = rest at hcut hcutNot
    generalize behind.dropWhile inVerbGroup = predicate at hcut hcutNot
    have hverbs : verb :: rest ≠ [] := List.cons_ne_nil _ _
    have hverbsNot : verb :: "not" :: rest ≠ [] := List.cons_ne_nil _ _
    obtain ⟨hkept, hlost⟩ := predicate_not (hcut.says_proposition hverbs)
      (hcutNot.says_proposition hverbsNot)
    refine ⟨_, _, _, hcut, ofSentence?_of_verbs hcut hverbs, ofSentence?_of_verbs hcutNot hverbsNot,
      rfl, ?_, ?_, ⟨fun heq hbare => ?_, hkept⟩, hlost⟩
    · show Parts.head _ = Parts.head _
      rw [Parts.head, Parts.head, Parts.find?_predicateWords, Parts.find?_predicateWords]
      rfl
    · exact List.any_eq_true.2 ⟨"not", by simp, by decide⟩
    · obtain ⟨hp, hq⟩ := hlost hbare
      exact trimMarks_been_ne predicate (hp.symm.trans (heq.symm.trans hq))

/-- Behind a further verb the perfect keeps its "been" when it is denied. -/
theorem proposition_denied_value :
    (∃ word ∈ words "the value must have been set", isVerb word) ∧
      denied "the value must have been set" = "the value must not have been set" ∧
      ∃ q, Proposition.ofSentence? "the value must not have been set" = some q ∧
        q.subject = "the value" ∧ q.head = "set" ∧ q.negated ∧ q.predicate = "been set" := by
  have hverb : ∃ word ∈ words "the value must have been set", isVerb word :=
    ⟨"must", by decide, by decide⟩
  have hread : Proposition.ofSentence? "the value must have been set" =
      some ⟨"the value", "been set", false, "set"⟩ := by
    decide
  have hdenied : denied "the value must have been set" = "the value must not have been set" := by
    decide
  obtain ⟨parts, p, q, hcut, hp, hq, hsubject, hhead, hnegated, hpredicate, -⟩ :=
    proposition_denied hverb
  obtain rfl := Option.some.inj (hp.symm.trans hread)
  have hthree : parts.verbGroup.length = 3 := by
    rw [hcut.eq_ofWords]
    decide
  have hbare : ¬IsBarePerfect parts.verbGroup := by
    intro hbare
    have htwo := hbare.2
    omega
  exact ⟨hverb, hdenied, q, hdenied ▸ hq, hsubject, hhead, hnegated, hpredicate.2 hbare⟩

/-- Between the two words of the perfect, "not" hides the "been" from the predicate. -/
theorem perfect_lost_listener :
    Text.IsSpaced "the listener has been set" ∧
      (∃ word ∈ words "the listener has been set", isVerb word) ∧
      denied "the listener has been set" = "the listener has not been set" ∧
      Proposition.ofSentence? "the listener has been set" =
        some ⟨"the listener", "been set", false, "set"⟩ ∧
      Proposition.ofSentence? "the listener has not been set" =
        some ⟨"the listener", "set", true, "set"⟩ := by
  refine ⟨?_, ⟨"has", by decide, by decide⟩, ?_⟩
  · show Text.join " " (words "the listener has been set") = "the listener has been set"
    decide
  · decide

end ProseGuard.Comment
