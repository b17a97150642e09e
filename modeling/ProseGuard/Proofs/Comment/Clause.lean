import ProseGuard.Comment.Clause
import ProseGuard.Comment.Modal
import ProseGuard.Proofs.Text.Words

/-!
# Clauses with and without verbs

Whether a text holds a verb does not depend on the blanks and the punctuation around it
(`verbless_trimMarks`), and a text that holds none says nothing of its subject
(`predicate_of_verbless`). Main statement: `ofSentence?_modal`, by which a name, a modal phrase and
a predicate are read back from the sentence that they make.
-/

namespace ProseGuard.Comment

open Text (isBlank words splitWhere trimMarks trimWhere lower)

/-- The marks that surround words. -/
def wordMargin : Text := ".,;:()\"'"

/-- Whether a character can stand around a text without being part of one of its words. -/
def isMargin (c : Point) : Bool :=
  isBlank c || wordMargin.contains c

/-- No word of the text is a verb. -/
def Verbless (text : Text) : Prop :=
  ∀ word ∈ words text, isVerb word = false

/-- Marks before a word do not change it. -/
theorem isVerb_append_left {margin : Text} (h : ∀ c ∈ margin, wordMargin.contains c) (word : Text) :
    isVerb (margin ++ word) = isVerb word := by
  have hbare : bare (margin ++ word) = bare word := Text.trimWhere_append_left h word
  rw [isVerb, isVerb, folded, folded, hbare]

/-- Marks behind a word do not change it. -/
theorem isVerb_append_right {margin : Text} (h : ∀ c ∈ margin, wordMargin.contains c)
    (word : Text) : isVerb (word ++ margin) = isVerb word := by
  have hbare : bare (word ++ margin) = bare word := Text.trimWhere_append_right h word
  rw [isVerb, isVerb, folded, folded, hbare]

/-- Marks alone are no verb. -/
theorem isVerb_of_margin {margin : Text} (h : ∀ c ∈ margin, wordMargin.contains c) :
    isVerb margin = false := by
  rw [← List.append_nil margin, isVerb_append_left h]
  decide

/-- The pieces between blanks tell whether a text has verbs, the empty ones being none. -/
theorem verbless_iff {text : Text} :
    Verbless text ↔ ∀ piece ∈ splitWhere isBlank text, isVerb piece = false := by
  constructor
  · intro h piece hpiece
    by_cases hempty : piece = []
    · subst hempty
      exact isVerb_of_margin fun c hc => absurd hc List.not_mem_nil
    · exact h piece (List.mem_filter.2 ⟨hpiece, by simpa using hempty⟩)
  · exact fun h word hword => h word (List.mem_filter.1 hword).1

/-- A piece of a margin consists of marks. -/
theorem contains_of_mem_splitWhere {margin piece : Text} (h : ∀ c ∈ margin, isMargin c)
    (hpiece : piece ∈ splitWhere isBlank margin) : ∀ c ∈ piece, wordMargin.contains c := by
  intro c hc
  have hblank : isBlank c = false := Text.not_of_mem_splitWhere hpiece c hc
  have hmargin := h c (Text.mem_of_mem_splitWhere hpiece hc)
  rwa [isMargin, hblank, Bool.false_or] at hmargin

/-- A margin before a text adds no verb and takes none away. -/
theorem verbless_append_left {margin : Text} (h : ∀ c ∈ margin, isMargin c) (text : Text) :
    Verbless (margin ++ text) ↔ Verbless text := by
  obtain ⟨before, last, first, after, hmargin, htext, happend⟩ :=
    Text.splitWhere_append isBlank margin text
  have hpieces : ∀ piece ∈ before ++ [last], ∀ c ∈ piece, wordMargin.contains c :=
    fun piece hpiece => contains_of_mem_splitWhere h (hmargin ▸ hpiece)
  -- the last piece of the margin stands before the first word of the text
  have hlast := isVerb_append_left (hpieces last (by simp)) first
  rw [verbless_iff, verbless_iff, happend, htext, List.forall_mem_append, List.forall_mem_cons,
    List.forall_mem_cons, hlast]
  refine and_iff_right fun piece hpiece => isVerb_of_margin (hpieces piece (by simp [hpiece]))

/-- A margin behind a text adds no verb and takes none away. -/
theorem verbless_append_right {margin : Text} (h : ∀ c ∈ margin, isMargin c) (text : Text) :
    Verbless (text ++ margin) ↔ Verbless text := by
  obtain ⟨before, last, first, after, htext, hmargin, happend⟩ :=
    Text.splitWhere_append isBlank text margin
  have hpieces : ∀ piece ∈ first :: after, ∀ c ∈ piece, wordMargin.contains c :=
    fun piece hpiece => contains_of_mem_splitWhere h (hmargin ▸ hpiece)
  -- the first piece of the margin stands behind the last word of the text
  have hfirst := isVerb_append_right (hpieces first (by simp)) last
  rw [verbless_iff, verbless_iff, happend, htext, List.forall_mem_append, List.forall_mem_append,
    List.forall_mem_cons, List.forall_mem_singleton, hfirst]
  refine and_congr_right fun _ => and_iff_left fun piece hpiece => ?_
  exact isVerb_of_margin (hpieces piece (List.mem_cons_of_mem _ hpiece))

/-- Trimming such marks adds no verb and takes none away. -/
theorem verbless_trimMarks {marks : Text} (h : ∀ c ∈ marks, isMargin c) (text : Text) :
    Verbless (trimMarks marks text) ↔ Verbless text := by
  obtain ⟨left, right, htext, hleft, hright⟩ := Text.exists_margins marks.contains text
  have hmargin : ∀ c, marks.contains c → isMargin c := fun c hc => h c (by simpa using hc)
  conv_rhs => rw [htext]
  rw [verbless_append_right fun c hc => hmargin c (hright c hc),
    verbless_append_left fun c hc => hmargin c (hleft c hc), trimMarks]

/-- What is trimmed off sentences is no part of a word. -/
theorem isMargin_of_mem_sentenceMargin : ∀ c ∈ sentenceMargin, isMargin c := by
  decide

/-- A sentence without a verb says nothing of its subject. -/
theorem predicate_of_verbless {sentence : Text} (h : Verbless sentence) {p : Proposition}
    (hp : p ∈ Proposition.ofSentence? sentence) : p.predicate = [] := by
  have hrest : (words sentence).dropWhile (fun word => !isVerb word) = [] :=
    List.dropWhile_eq_nil_iff.2 fun word hword => by simp [h word hword]
  unfold Proposition.ofSentence? at hp
  simp only [Parts.ofWords, hrest, List.takeWhile_nil, List.isEmpty_nil, if_true] at hp
  split at hp
  · cases hp
  · cases hp
    rfl

/-- The modal phrases that do not hold a negation. -/
def affirmativeModals : List Text :=
  ["must be", "will be", "should be", "Must be", "Will be", "Should be"]

/-- A name that stands in a sentence as one word and is no verb. Identifiers stand so, for they hold
neither blanks nor punctuation. -/
structure IsName (name : Text) : Prop where
  ne_nil : name ≠ []
  unbroken : ∀ c ∈ name, isMargin c = false
  no_verb : lower name ∉ verbs

/-- A text that can stand before a modal phrase without saying anything itself. -/
structure IsDescription (description : Text) : Prop where
  verbless : ∀ sentence ∈ sentences description, Verbless sentence
  no_parenthesis : ('(' : Point) ∉ description
  no_modal : ∀ modal ∈ modals, Text.occurs modal description = false

/-- A text that can stand behind a modal phrase as what is said. -/
structure IsPredicate (predicate : Text) : Prop where
  spaced : Text.IsSpaced predicate
  ne_nil : predicate ≠ []
  starts : ∀ c ∈ predicate.head?, (",.;" : Text).contains c = false
  ends : ∀ c ∈ predicate.getLast?, (",.;" : Text).contains c = false
  no_semicolon : (';' : Point) ∉ predicate
  no_stop : Text.occurs ". " predicate = false
  no_parenthesis : ('(' : Point) ∉ predicate
  no_modal : ∀ modal ∈ modals, Text.occurs modal predicate = false
  no_verb : ∀ word ∈ (words predicate).head?, inVerbGroup word = false

namespace IsName

variable {name : Text} (h : IsName name)

include h

/-- No blank stands in a name. -/
theorem not_isBlank {c : Point} (hc : c ∈ name) : isBlank c = false :=
  (Bool.or_eq_false_iff.1 (h.unbroken c hc)).1

/-- Nothing that can stand around a text stands in a name. -/
theorem not_mem {c : Point} (hc : isMargin c) : c ∉ name :=
  fun hmem => absurd hc (by simp [h.unbroken c hmem])

/-- Trimming blanks or marks leaves a name as it is. -/
theorem trimWhere_eq {marks : Point → Bool} (hmarks : ∀ c, marks c → isMargin c) :
    trimWhere marks name = name := by
  have hnot : ∀ c ∈ name, marks c = false := by
    intro c hc
    exact Bool.eq_false_iff.2 fun hmark => h.not_mem (hmarks c hmark) hc
  exact Text.trimWhere_eq_self (fun _ hc => hnot _ (List.mem_of_mem_head? hc))
    fun _ hc => hnot _ (List.mem_of_getLast? hc)

/-- A name is not read as a verb. -/
theorem not_isVerb : isVerb name = false := by
  have hbare : bare name = name := h.trimWhere_eq fun c hc => Bool.or_eq_true_iff.2 (.inr hc)
  rw [isVerb, folded, hbare]
  simpa using h.no_verb

end IsName

/-- The noise of sentences is a space and three marks. -/
theorem not_contains_sentenceNoise {c : Point} (hblank : isBlank c = false)
    (hmark : (",.;" : Text).contains c = false) : sentenceNoise.contains c = false := by
  have hne : (c == (' ' : Point)) = false := by
    rw [beq_eq_false_iff_ne]
    rintro rfl
    exact absurd hblank (by decide)
  show ((' ' : Point) :: (",.;" : Text)).contains c = false
  rw [List.contains_cons, hne, hmark, Bool.or_false]

namespace IsPredicate

variable {predicate : Text} (h : IsPredicate predicate)

include h

/-- A predicate does not end in noise. -/
theorem not_noise_of_mem_getLast? {c : Point} (hc : c ∈ predicate.getLast?) :
    sentenceNoise.contains c = false :=
  not_contains_sentenceNoise (h.spaced.not_isBlank_of_mem_getLast? hc) (h.ends c hc)

/-- Nothing is trimmed off a predicate. -/
theorem trimMarks_eq : trimMarks sentenceNoise predicate = predicate := by
  refine Text.trimWhere_eq_self (fun c hc => ?_) fun c hc => h.not_noise_of_mem_getLast? hc
  exact not_contains_sentenceNoise (h.spaced.not_isBlank_of_mem_head? hc) (h.starts c hc)

end IsPredicate

/-- Words that are no verbs, a group of verbs, and words that do not go on with the group are the
parts of the sentence that they make. -/
theorem Parts.ofWords_append {subject group predicate : List Text}
    (hsubject : ∀ word ∈ subject, isVerb word = false) (hverb : group.head?.any isVerb)
    (hgroup : ∀ word ∈ group, inVerbGroup word)
    (hpredicate : ∀ word ∈ predicate.head?, inVerbGroup word = false) :
    Parts.ofWords (subject ++ (group ++ predicate)) = ⟨subject, group, predicate⟩ := by
  have hplain : ∀ word ∈ subject, (!isVerb word) = true := by
    intro word hword
    rw [hsubject word hword, Bool.not_false]
  obtain ⟨verb, rest, rfl⟩ : ∃ verb rest, group = verb :: rest := by
    cases group with
    | nil => exact nomatch hverb
    | cons verb rest => exact ⟨verb, rest, rfl⟩
  have hfirst : ¬(!isVerb verb) = true := by
    rw [show isVerb verb = true from hverb]
    decide
  have hstop : predicate.takeWhile inVerbGroup = [] ∧
      predicate.dropWhile inVerbGroup = predicate := by
    cases predicate with
    | nil => exact ⟨rfl, rfl⟩
    | cons word predicate =>
        have hnot : ¬inVerbGroup word = true := Bool.eq_false_iff.1 (hpredicate word rfl)
        exact ⟨List.takeWhile_cons_of_neg hnot, List.dropWhile_cons_of_neg hnot⟩
  have hrest : (subject ++ (verb :: rest ++ predicate)).dropWhile (fun word => !isVerb word) =
      verb :: rest ++ predicate := by
    rw [List.dropWhile_append_of_pos hplain]
    exact List.dropWhile_cons_of_neg hfirst
  have htaken : (subject ++ (verb :: rest ++ predicate)).takeWhile (fun word => !isVerb word) =
      subject := by
    rw [List.takeWhile_append_of_pos hplain, List.cons_append]
    exact (congrArg (subject ++ ·) (List.takeWhile_cons_of_neg hfirst)).trans (List.append_nil _)
  rw [Parts.ofWords, hrest, htaken, List.takeWhile_append_of_pos hgroup,
    List.dropWhile_append_of_pos hgroup, hstop.1, hstop.2, List.append_nil]

/-- A modal phrase begins with a verb and is a group of verbs, which negates exactly if the phrase
is not affirmative. -/
theorem words_modal : ∀ modal ∈ modals, ((words modal).head?.any isVerb ∧
    (words modal).all inVerbGroup) ∧ endsInPerfect (words modal) = false ∧
      (words modal).any negates = !affirmativeModals.contains modal := by
  simp only [modals, Text.ofString, String.reduceToList, List.map]
  decide

/-- A name, a modal phrase and a predicate are read back from the sentence that they make. -/
theorem ofSentence?_modal {name modal predicate : Text} (hname : IsName name)
    (hmodal : modal ∈ modals) (hpredicate : IsPredicate predicate) :
    ∃ head, Proposition.ofSentence? (name ++ " " ++ (modal ++ " " ++ predicate)) =
      some ⟨name, predicate, !affirmativeModals.contains modal, head⟩ := by
  obtain ⟨⟨hverb, hgroup⟩, hperfect, hnegates⟩ := words_modal modal hmodal
  have hwords : words (name ++ " " ++ (modal ++ " " ++ predicate)) =
      name :: (words modal ++ words predicate) := by
    rw [Text.words_append_space, Text.words_append_space,
      Text.words_of_forall hname.ne_nil fun c => hname.not_isBlank, List.singleton_append]
  have hparts : Parts.ofWords (name :: (words modal ++ words predicate)) =
      ⟨[name], words modal, words predicate⟩ :=
    Parts.ofWords_append (List.forall_mem_singleton.2 hname.not_isVerb) hverb
      (List.all_eq_true.1 hgroup) hpredicate.no_verb
  have hgroupNotEmpty : (words modal).isEmpty = false := by
    rw [List.isEmpty_eq_false_iff]
    intro hnil
    rw [hnil] at hverb
    exact nomatch hverb
  have hsubject : trimMarks sentenceMargin (Text.join " " [name]) = name := by
    refine (congrArg _ List.intercalate_singleton).trans (hname.trimWhere_eq fun c hc => ?_)
    exact isMargin_of_mem_sentenceMargin c (by simpa using hc)
  have hsaid : trimMarks sentenceNoise (Text.join " " (words predicate)) = predicate := by
    rw [hpredicate.spaced, hpredicate.trimMarks_eq]
  refine ⟨(Parts.ofWords (name :: (words modal ++ words predicate))).head, ?_⟩
  rw [Proposition.ofSentence?, hwords, hparts]
  simp only [List.isEmpty_cons, hgroupNotEmpty, Parts.predicateWords, hperfect, hsubject, hsaid,
    hnegates, Bool.false_eq_true, if_false]

end ProseGuard.Comment
