import ProseGuard.Proofs.Comment.Insertion
import ProseGuard.Proofs.Comment.Parts
import ProseGuard.Proofs.Comment.Sentence

/-!
# Words before a modal phrase

A comment describes a parameter in plain words, possibly with some of them in parentheses, and goes
on with a modal phrase. Behind a full stop the supplied subject begins a sentence of its own; behind
the bare space that a parenthesis brings about, the description belongs to its clause. Main
statement: `propositions_front`, by which the clauses differ in their subjects alone.
-/

namespace ProseGuard.Comment

open Text (isBlank words trimMarks)

/-- Words that are no verbs, without marks that surround or end sentences and without modal
phrases. -/
structure IsPlain (text : Text) : Prop where
  verbless : Verbless text
  no_mark : ∀ c ∈ (",.;" : Text), c ∉ text
  no_modal : ∀ modal ∈ modals, ¬ modal <:+: text

/-- A text that is a single word and holds no such marks, as identifiers do. -/
structure IsWord (word : Text) : Prop where
  ne_nil : word ≠ []
  not_isBlank : ∀ c ∈ word, isBlank c = false
  no_mark : ∀ c ∈ (",.;" : Text), c ∉ word

/-- A description with more words in parentheses behind it. -/
def withParenthetical (description inner : Text) : Text :=
  description ++ " (" ++ inner ++ ")"

/-- A modal phrase with what follows it, behind a text. -/
def modalComment (text modal rest : Text) : Text :=
  text ++ " " ++ (modal ++ " " ++ rest)

/-- The clause that a modal phrase opens with its subject, further subjects being supplied behind
it. -/
def suppliedClause (lead name modal rest : Text) : Text :=
  modalComment name modal (Text.insertBeforeEach (lead ++ name ++ " ") modals rest)

/-- What stands before the first verb of a text, a single space between any two words. -/
def beforeVerb (text : Text) : Text :=
  Text.join " " ((words text).takeWhile fun word => !isVerb word)

/-- The subject of the clause that a modal phrase opens behind a front: the name alone, or the front
with the name where a parenthesis in the comment leaves them in one sentence. -/
def subjectBehind (comment front name : Text) : Text :=
  if comment.contains '(' then beforeVerb (front ++ " " ++ name) else beforeVerb name

/-- The same said of another subject. -/
def Proposition.about (p : Proposition) (subject : Text) : Proposition :=
  { p with subject := subject }

/-- What the pieces of a comment say. -/
def said (pieces : List Text) : List Proposition :=
  ((pieces.filter fun piece => trimMarks sentenceNoise piece ≠ "").map
    (trimMarks sentenceMargin)).filterMap Proposition.ofSentence?

/-! ## Words and fronts -/

/-- A word is its only word. -/
theorem IsWord.words_eq {word : Text} (h : IsWord word) : words word = [word] :=
  Text.words_of_forall h.ne_nil h.not_isBlank

/-- No space stands in a word. -/
theorem IsWord.not_mem_space {word : Text} (h : IsWord word) : (' ' : Point) ∉ word :=
  fun hmem => nomatch h.not_isBlank _ hmem

/-- Two texts with a space between them hold a verb if one of them does. -/
theorem verbless_append_space {before behind : Text} :
    Verbless (before ++ " " ++ behind) ↔ Verbless before ∧ Verbless behind := by
  rw [Verbless, Text.words_append_space, List.forall_mem_append]
  exact Iff.rfl

namespace IsPlain

variable {text inner : Text} (h : IsPlain text) (hinner : IsPlain inner)

include h hinner

/-- Plain words are so with others in parentheses behind them. -/
theorem withParenthetical : IsPlain (withParenthetical text inner) where
  verbless := by
    have hopen : ∀ c ∈ ("(" : Text), isMargin c := by decide
    have hclose : ∀ c ∈ (")" : Text), isMargin c := by decide
    have hparts : Comment.withParenthetical text inner =
        text ++ " " ++ ("(" ++ (inner ++ ")")) := by
      simp only [Comment.withParenthetical, List.append_assoc]
      rfl
    rw [hparts, verbless_append_space, verbless_append_left hopen, verbless_append_right hclose]
    exact ⟨h.verbless, hinner.verbless⟩
  no_mark c hc := by
    have hparentheses : ∀ c ∈ (",.;" : Text), c ∉ (" (" : Text) ∧ c ∉ (")" : Text) := by decide
    simp only [Comment.withParenthetical, List.mem_append, not_or]
    exact ⟨⟨⟨h.no_mark c hc, (hparentheses c hc).1⟩, hinner.no_mark c hc⟩,
      (hparentheses c hc).2⟩
  no_modal modal hmodal hoccurs := by
    -- a phrase holds no parenthesis, so it would stand on one side of each
    obtain ⟨hne, -, -, -, hmarks⟩ := modal_characters modal hmodal
    have hopen : (('(' : Char) : Point) ∉ modal := hmarks '(' (by decide)
    have hclose : ((')' : Char) : Point) ∉ modal := hmarks ')' (by decide)
    have hparts : Comment.withParenthetical text inner =
        (text ++ " ") ++ (('(' : Char) : Point) :: (inner ++ ((')' : Char) : Point) :: []) := by
      simp only [Comment.withParenthetical, List.append_assoc]
      rfl
    rw [hparts] at hoccurs
    rcases Text.infix_or_of_infix_append_cons hopen hoccurs with hoccurs | hoccurs
    · exact h.no_modal modal hmodal (occurs_of_append_space hmodal hoccurs)
    · rcases Text.infix_or_of_infix_append_cons hclose hoccurs with hoccurs | hoccurs
      · exact hinner.no_modal modal hmodal hoccurs
      · exact hne (List.infix_nil.1 hoccurs)

end IsPlain

/-! ## The subject that is supplied -/

section Supply

variable {front name modal rest : Text} (hname : IsWord name) (hmodal : modal ∈ modals)
  (hfront : IsPlain front)

/-- Without a further modal phrase the clause is what the comment makes of the name. -/
theorem suppliedClause_of_absent (hrest : ∀ phrase ∈ modals, ¬ phrase <:+: rest)
    (lead name modal : Text) :
    suppliedClause lead name modal rest = modalComment name modal rest := by
  rw [suppliedClause, Text.insertBeforeEach_of_absent hrest]

include hmodal hfront

/-- Behind a front a subject is supplied to the modal phrase, and then to those in the rest. -/
theorem insertBeforeEach_modalComment (inserted : Text) :
    Text.insertBeforeEach inserted modals (modalComment front modal rest) =
      front ++ " " ++ (inserted ++
        (modal ++ " " ++ Text.insertBeforeEach inserted modals rest)) := by
  have hbegins : ∀ part, part <:+ front ++ (" " : Text) → part ≠ [] →
      Text.startsWithAny modals (part ++ (modal ++ " " ++ rest)) = false := by
    refine fun part hpart hne => Text.startsWithAny_eq_false_iff.2 fun phrase hphrase => ?_
    have habsent : ¬ phrase <:+: front ++ (" " : Text) :=
      fun hoccurs => hfront.no_modal phrase hphrase (occurs_of_append_space hphrase hoccurs)
    exact not_begins_before hphrase hmodal habsent part hpart hne
  have hspace : ∀ part, part <:+ (" " : Text) → part ≠ [] →
      Text.startsWithAny modals (part ++ rest) = false := by
    refine fun part hpart hne =>
      Text.startsWithAny_eq_false_iff.2 fun phrase hphrase hprefix => ?_
    obtain ⟨hnonempty, -, hstart, -⟩ := modal_characters phrase hphrase
    obtain ⟨c, cs, rfl⟩ := List.exists_cons_of_ne_nil hnonempty
    rcases List.suffix_cons_iff.1 hpart with rfl | hpart
    · exact hstart (congrArg some (List.cons_prefix_cons.1 hprefix).1)
    · exact hne (List.suffix_nil.1 hpart)
  rw [modalComment, Text.insertBeforeEach_append hbegins, List.append_assoc modal,
    Text.insertBeforeEach_phrase isolated_modals hmodal, Text.insertBeforeEach_append hspace,
    List.append_assoc modal]

include hname

/-- Behind a front the subject of a modal phrase is supplied before it, and further subjects are
supplied in the rest. -/
theorem supplySubject_front
    (hrest : (∀ phrase ∈ modals, ¬ phrase <:+: rest) ∨ ¬ ("be" : Text) <+: name) :
    supplySubject name (modalComment front modal rest) =
      front ++ " " ++ (subjectLead (modalComment front modal rest) ++
        suppliedClause (subjectLead (modalComment front modal rest)) name modal rest) := by
  have hspace : (' ' : Point) ∉ name := hname.not_mem_space
  rcases hrest with hrest | hbe
  · have htext : ∀ phrase ∈ modals, ¬ phrase <:+: front ++ " " :=
      fun phrase h hoccurs => hfront.no_modal phrase h (occurs_of_append_space h hoccurs)
    rw [suppliedClause_of_absent hrest]
    refine supplySubject_once hmodal htext hrest fun phrase h hoccurs => ?_
    unfold subjectLead at hoccurs
    split at hoccurs
    · exact eq_of_infix_spaced h hmodal hspace (hfront.no_modal phrase h) (hrest phrase h) hoccurs
    · exact eq_of_infix_sentence h hmodal hspace (htext phrase h) (hrest phrase h) hoccurs
  · have hany : (modals.any fun phrase =>
        Text.occurs phrase (modalComment front modal rest)) = true := by
      refine List.any_eq_true.2 ⟨modal, hmodal, Text.occurs_iff.2 ?_⟩
      rw [modalComment, List.append_assoc modal]
      exact List.infix_append' _ _ _
    have hseparates : Text.Separates (subjectLead (modalComment front modal rest) ++ name ++ " ")
        modals :=
      separates_subject hspace (.inr hbe)
    have hinsertion := Text.foldl_replaceAll isolated_modals hseparates modals_nodup
      (List.Subset.refl modals) (modalComment front modal rest)
    rw [supplySubject, if_pos hany]
    refine hinsertion.trans ?_
    rw [insertBeforeEach_modalComment hmodal hfront, suppliedClause]
    generalize subjectLead (modalComment front modal rest) = lead
    simp only [modalComment, List.append_assoc]

end Supply

/-! ## The piece that holds the modal phrase -/

/-- What neither ends a sentence nor holds an end of one belongs to the first piece. -/
theorem sentencePieces_append {front text first : Text} {others : List Text}
    (hsemicolon : (';' : Point) ∉ front) (hstop : ('.' : Point) ∉ front)
    (h : sentencePieces false text = first :: others) :
    sentencePieces false (front ++ text) = (front ++ first) :: others := by
  induction front with
  | nil => exact h
  | cons c cs ih =>
      have hc := List.ne_of_not_mem_cons hsemicolon
      have hd := List.ne_of_not_mem_cons hstop
      refine sentencePieces_of_not_ends rfl ?_ (ih (List.not_mem_of_not_mem_cons hsemicolon)
        (List.not_mem_of_not_mem_cons hstop))
      simp [endsSentence, hc.symm, hd.symm]

/-- What several pieces say is what each of them says. -/
theorem said_cons (piece : Text) (pieces : List Text) :
    said (piece :: pieces) = said [piece] ++ said pieces := by
  rw [← List.singleton_append, said, List.filter_append, List.map_append, List.filterMap_append,
    said, said]

/-- A piece that is not only noise says what its sentence says. -/
theorem said_singleton {piece : Text} (h : trimMarks sentenceNoise piece ≠ "") :
    said [piece] = (Proposition.ofSentence? (trimMarks sentenceMargin piece)).toList := by
  have hkept : [piece].filter (fun piece => trimMarks sentenceNoise piece ≠ "") = [piece] :=
    List.filter_cons_of_pos (decide_eq_true h)
  rw [said, hkept]
  cases hsentence : Proposition.ofSentence? (trimMarks sentenceMargin piece) <;> simp [hsentence]

/-- A piece without a verb says nothing of its subject. -/
theorem predicate_of_mem_said {piece : Text} (h : Verbless piece) {p : Proposition}
    (hp : p ∈ said [piece]) : p.predicate = [] := by
  obtain ⟨sentence, hsentence, hclause⟩ := List.mem_filterMap.1 hp
  obtain ⟨other, hother, rfl⟩ := List.mem_map.1 hsentence
  obtain rfl := List.mem_singleton.1 (List.mem_filter.1 hother).1
  have hverbless := (verbless_trimMarks isMargin_of_mem_sentenceMargin other).2 h
  exact predicate_of_verbless hverbless hclause

/-! ## The clause that it opens -/

/-- Words that are no verbs go to the subject before others. -/
theorem Parts.ofWords_append_left {front : List Text} (hfront : ∀ word ∈ front, isVerb word = false)
    (ws : List Text) :
    Parts.ofWords (front ++ ws) =
      { Parts.ofWords ws with subject := front ++ (Parts.ofWords ws).subject } := by
  have hplain : ∀ word ∈ front, (!isVerb word) = true :=
    fun word hword => by rw [hfront word hword, Bool.not_false]
  rw [Parts.ofWords, Parts.ofWords, List.dropWhile_append_of_pos hplain,
    List.takeWhile_append_of_pos hplain]

/-- A verb opens a group of verbs. -/
theorem Parts.verbGroup_ne_nil {ws : List Text} {word : Text} (hword : word ∈ ws)
    (hverb : isVerb word) : (Parts.ofWords ws).verbGroup ≠ [] := by
  have hfirst := List.head?_dropWhile_not (fun word => !isVerb word) ws
  cases hrest : ws.dropWhile fun word => !isVerb word with
  | nil =>
      have hnone := List.dropWhile_eq_nil_iff.1 hrest word hword
      simp [hverb] at hnone
  | cons verb rest =>
      rw [hrest] at hfirst
      have hin : inVerbGroup verb = true := by
        simp only [List.head?_cons, Bool.not_eq_false'] at hfirst
        rw [inVerbGroup, hfirst, Bool.true_or]
      rw [Parts.ofWords, hrest, List.takeWhile_cons_of_pos hin]
      exact List.cons_ne_nil _ _

/-- A sentence with a verb is cut there. -/
theorem ofSentence?_of_verb {sentence word : Text} (hword : word ∈ words sentence)
    (hverb : isVerb word) :
    Proposition.ofSentence? sentence = some (Parts.ofWords (words sentence)).proposition :=
  ofSentence?_of_verbs (isCut_ofWords _) (Parts.verbGroup_ne_nil hword hverb)

/-- Words that are no verbs, put before a sentence with a verb, change its subject alone. -/
theorem ofSentence?_of_words {front : List Text} (hfront : ∀ word ∈ front, isVerb word = false)
    {text sentence word : Text} (hwords : words text = front ++ words sentence)
    (hword : word ∈ words sentence) (hverb : isVerb word) :
    Proposition.ofSentence? text = (Proposition.ofSentence? sentence).map fun p =>
      p.about (trimMarks sentenceMargin
        (Text.join " " (front ++ (Parts.ofWords (words sentence)).subject))) := by
  have hmem : word ∈ words text := hwords ▸ List.mem_append_right front hword
  rw [ofSentence?_of_verb hmem hverb, ofSentence?_of_verb hword hverb, hwords,
    Parts.ofWords_append_left hfront]
  rfl

/-- What is trimmed off sentences are spaces and commas. -/
theorem eq_of_mem_sentenceMargin : ∀ c ∈ sentenceMargin, c = ' ' ∨ c = ',' := by
  decide

/-- What is trimmed off before a sentence, commas apart, is in none of its words. -/
theorem words_dropWhile_append {front : Text} (hcomma : (',' : Point) ∉ front) (text : Text) :
    words (front.dropWhile sentenceMargin.contains ++ text) = words (front ++ text) := by
  have hblank : ∀ c ∈ front.takeWhile sentenceMargin.contains, isBlank c := by
    intro c hc
    have hmark : c ∈ sentenceMargin := by simpa using List.mem_takeWhile_imp hc
    rcases eq_of_mem_sentenceMargin c hmark with rfl | rfl
    · decide
    · exact absurd ((List.takeWhile_prefix _).subset hc) hcomma
  conv_rhs => rw [← List.takeWhile_append_dropWhile (p := sentenceMargin.contains) (l := front)]
  rw [List.append_assoc, Text.words_append_of_isBlank hblank]

/-- Nothing is trimmed off the words before a verb if there are no commas. -/
theorem trimMarks_beforeVerb {text : Text} (hcomma : (',' : Point) ∉ text) :
    trimMarks sentenceMargin (beforeVerb text) = beforeVerb text := by
  have hwords : ∀ word ∈ (words text).takeWhile fun word => !isVerb word,
      word ≠ [] ∧ ∀ c ∈ word, sentenceMargin.contains c = false := by
    intro word hword
    have hmem : word ∈ words text := (List.takeWhile_prefix _).subset hword
    refine ⟨Text.mem_words_ne_nil hmem, fun c hc => Bool.eq_false_iff.2 fun hmark => ?_⟩
    rcases eq_of_mem_sentenceMargin c (by simpa using hmark) with rfl | rfl
    · exact nomatch Text.not_isBlank_of_mem_words hmem _ hc
    · exact hcomma (Text.mem_of_mem_splitWhere (List.mem_filter.1 hmem).1 hc)
  refine Text.trimWhere_eq_self (fun c hc => ?_) fun c hc => ?_
  · rw [beforeVerb, Text.head?_join _ fun word hword => (hwords word hword).1] at hc
    obtain ⟨word, hword, hc⟩ := Option.bind_eq_some_iff.1 hc
    exact (hwords word (List.mem_of_mem_head? hword)).2 c (List.mem_of_mem_head? hc)
  · rw [beforeVerb, Text.getLast?_join _ fun word hword => (hwords word hword).1] at hc
    obtain ⟨word, hword, hc⟩ := Option.bind_eq_some_iff.1 hc
    exact (hwords word (List.mem_of_getLast? hword)).2 c (List.mem_of_getLast? hc)

section Clause

variable {name modal : Text} (hname : IsWord name) (hmodal : modal ∈ modals)

include hname hmodal

/-- Trimming works before a name and behind the modal phrase that follows it. -/
theorem exists_trimMarks_clause (tail : Text) :
    ∃ behind : Text, (behind = [] ∨ ∃ text : Text, behind = " " ++ text) ∧ ∀ before : Text,
      trimMarks sentenceMargin (before ++ (name ++ " " ++ (modal ++ " " ++ tail))) =
        before.dropWhile sentenceMargin.contains ++ (name ++ " " ++ modal ++ behind) := by
  obtain ⟨hne, -, -, hend, hmarks⟩ := modal_characters modal hmodal
  have hprefix : (" " ++ tail : Text).rdropWhile sentenceMargin.contains <+: " " ++ tail :=
    List.rdropWhile_prefix _ _
  refine ⟨(" " ++ tail : Text).rdropWhile sentenceMargin.contains, ?_, fun before => ?_⟩
  · exact (List.prefix_cons_iff.1 hprefix).imp_right fun ⟨text, htext, _⟩ => ⟨text, htext⟩
  · have hfirst : ∀ c ∈ (name ++ " " ++ modal).head?, sentenceMargin.contains c = false := by
      intro c hc
      rw [List.append_assoc, List.head?_append_of_ne_nil _ hname.ne_nil] at hc
      refine Bool.eq_false_iff.2 fun hmark => ?_
      rcases eq_of_mem_sentenceMargin c (by simpa using hmark) with rfl | rfl
      · exact hname.not_mem_space (List.mem_of_mem_head? hc)
      · exact hname.no_mark ',' (by decide) (List.mem_of_mem_head? hc)
    have hlast : ∀ c ∈ (name ++ " " ++ modal).getLast?, sentenceMargin.contains c = false := by
      intro c hc
      rw [List.getLast?_append_of_ne_nil _ hne] at hc
      refine Bool.eq_false_iff.2 fun hmark => ?_
      rcases eq_of_mem_sentenceMargin c (by simpa using hmark) with rfl | rfl
      · exact hend hc
      · exact hmarks ',' (by decide) (List.mem_of_getLast? hc)
    rw [← Text.trimWhere_around (by simp [hne]) hfirst hlast, trimMarks]
    simp only [List.append_assoc]

omit hmodal in
/-- A piece with a name in it is not only noise. -/
theorem not_noise_of_name (before behind : Text) :
    trimMarks sentenceNoise (before ++ (name ++ behind)) ≠ "" := by
  intro hnil
  obtain ⟨c, cs, hcs⟩ := List.exists_cons_of_ne_nil hname.ne_nil
  have hc : c ∈ name := hcs ▸ List.mem_cons_self
  have hmark := Text.trimWhere_eq_nil_iff.1 hnil c (by simp [hc])
  have hnoise : ∀ c ∈ sentenceNoise, c = ' ' ∨ c ∈ (",.;" : Text) := by decide
  rcases hnoise c (by simpa using hmark) with rfl | hmark
  · exact hname.not_mem_space hc
  · exact hname.no_mark c hmark hc

/-- The first word of such a clause is the name, and the verb follows it. -/
theorem exists_words_clause {behind : Text}
    (hbehind : behind = [] ∨ ∃ text : Text, behind = " " ++ text) :
    ∃ verb rest, isVerb verb ∧ words (name ++ " " ++ modal ++ behind) = name :: verb :: rest := by
  obtain ⟨⟨hverb, -⟩, -⟩ := words_modal modal hmodal
  obtain ⟨verb, group, hgroup⟩ : ∃ verb group, words modal = verb :: group := by
    refine List.exists_cons_of_ne_nil fun hnil => ?_
    rw [hnil] at hverb
    exact nomatch hverb
  have hstart : words (name ++ " " ++ modal) = name :: verb :: group := by
    rw [Text.words_append_space, hname.words_eq, hgroup, List.singleton_append]
  rw [hgroup] at hverb
  rcases hbehind with rfl | ⟨text, rfl⟩
  · exact ⟨verb, group, hverb, by rw [List.append_nil, hstart]⟩
  · refine ⟨verb, group ++ words text, hverb, ?_⟩
    rw [← List.append_assoc, Text.words_append_space, hstart, List.cons_append, List.cons_append]

/-- What the clause of a name and a modal phrase says, and what a text says that has the words of a
front before those of the clause. -/
theorem exists_clause {behind : Text}
    (hbehind : behind = [] ∨ ∃ text : Text, behind = " " ++ text) :
    ∃ p : Proposition, p.subject = beforeVerb name ∧
      Proposition.ofSentence? (name ++ " " ++ modal ++ behind) = some p ∧
      ∀ front text, IsPlain front →
        words text = words front ++ words (name ++ " " ++ modal ++ behind) →
        Proposition.ofSentence? text = some (p.about (beforeVerb (front ++ " " ++ name))) := by
  obtain ⟨verb, rest, hverb, hwords⟩ := exists_words_clause hname hmodal hbehind
  have hmem : verb ∈ words (name ++ " " ++ modal ++ behind) := by
    rw [hwords]
    exact List.mem_cons_of_mem name List.mem_cons_self
  have hsubject : (Parts.ofWords (words (name ++ " " ++ modal ++ behind))).subject =
      (words name).takeWhile fun word => !isVerb word := by
    rw [hwords, Parts.ofWords, hname.words_eq]
    by_cases h : isVerb name <;> simp [h, hverb]
  have hcomma : (',' : Point) ∉ name := hname.no_mark ',' (by decide)
  refine ⟨_, ?_, ofSentence?_of_verb hmem hverb, fun front text hfront htext => ?_⟩
  · rw [Parts.proposition, hsubject]
    exact trimMarks_beforeVerb hcomma
  · have hplain : ∀ word ∈ words front, (!isVerb word) = true :=
      fun word hword => by rw [hfront.verbless word hword, Bool.not_false]
    have hbefore : Text.join " " (words front ++
        (Parts.ofWords (words (name ++ " " ++ modal ++ behind))).subject) =
          beforeVerb (front ++ " " ++ name) := by
      rw [hsubject, beforeVerb, Text.words_append_space, List.takeWhile_append_of_pos hplain]
    have hcommas : (',' : Point) ∉ front ++ " " ++ name := by
      have hnot : (',' : Point) ∉ front := hfront.no_mark ',' (by decide)
      have hspace : (',' : Point) ∉ (" " : Text) := by decide
      simp [hnot, hspace, hcomma]
    rw [ofSentence?_of_words hfront.verbless htext hmem hverb, hbefore,
      trimMarks_beforeVerb hcommas, ofSentence?_of_verb hmem hverb]
    rfl

/-- What the piece with the clause says, and what it says where a front belongs to it. -/
theorem said_front (tail : Text) : ∃ p : Proposition, p.subject = beforeVerb name ∧
    said [name ++ " " ++ (modal ++ " " ++ tail)] = [p] ∧ ∀ front, IsPlain front →
      said [front ++ " " ++ " " ++ (name ++ " " ++ (modal ++ " " ++ tail))] =
        [p.about (beforeVerb (front ++ " " ++ name))] := by
  obtain ⟨behind, hbehind, htrim⟩ := exists_trimMarks_clause hname hmodal tail
  obtain ⟨p, hsubject, hclause, hfronts⟩ := exists_clause hname hmodal hbehind
  have hcontent : ∀ before : Text,
      trimMarks sentenceNoise (before ++ (name ++ " " ++ (modal ++ " " ++ tail))) ≠ "" := by
    intro before
    rw [List.append_assoc name]
    exact not_noise_of_name hname before _
  refine ⟨p, hsubject, ?_, fun front hfront => ?_⟩
  · have hsaid := said_singleton (hcontent [])
    rw [htrim, List.dropWhile_nil, List.nil_append, List.nil_append, hclause] at hsaid
    exact hsaid
  · have hcomma : (',' : Point) ∉ front ++ " " ++ " " := by
      have hnot : (',' : Point) ∉ front := hfront.no_mark ',' (by decide)
      have hspace : (',' : Point) ∉ (" " : Text) := by decide
      simp [hnot, hspace]
    have hwords : words ((front ++ " " ++ " " : Text).dropWhile sentenceMargin.contains ++
        (name ++ " " ++ modal ++ behind)) =
          words front ++ words (name ++ " " ++ modal ++ behind) := by
      rw [words_dropWhile_append hcomma, Text.words_append_space, Text.words_concat_space]
    rw [said_singleton (hcontent _), htrim, hfronts front _ hfront hwords]
    rfl

/-- A description, a modal phrase and what follows it: behind a full stop the name with the modal
phrase says what it says alone, and behind a bare space the description belongs to its subject. -/
theorem propositions_front (rest : Text) : ∃ p others,
    propositions (modalComment name modal rest) = p :: others ∧
    p.subject = beforeVerb name ∧ ∀ front, IsPlain front →
      propositions (front ++ " " ++ (" " ++ modalComment name modal rest)) =
        p.about (beforeVerb (front ++ " " ++ name)) :: others ∧
      ∃ silent, propositions (front ++ " " ++ (". " ++ modalComment name modal rest)) =
        silent ++ p :: others ∧ ∀ q ∈ silent, q.predicate = [] := by
  unfold modalComment
  obtain ⟨tail, pieces, hrest⟩ := List.exists_cons_of_ne_nil (sentencePieces_ne_nil false rest)
  obtain ⟨-, -, -, -, hmarks⟩ := modal_characters modal hmodal
  obtain ⟨p, hsubject, hclause, hfronts⟩ := said_front hname hmodal tail
  have hpieces : sentencePieces false (name ++ " " ++ (modal ++ " " ++ rest)) =
      (name ++ " " ++ (modal ++ " " ++ tail)) :: pieces := by
    have hends : ∀ c ∈ (";." : Text), c ∉ name ++ " " ++ (modal ++ " ") := by
      intro c hc
      have hcases : ∀ c ∈ (";." : Text),
          c ∈ (",.;" : Text) ∧ c ∈ (".,;()" : Text) ∧ c ∉ (" " : Text) := by
        decide
      obtain ⟨hmark, hmark', hspace⟩ := hcases c hc
      simp [hname.no_mark c hmark, hmarks c hmark', hspace]
    have h := sentencePieces_append (hends ';' (by decide)) (hends '.' (by decide)) hrest
    simpa only [List.append_assoc] using h
  refine ⟨p, said pieces, ?_, hsubject, fun front hfront => ?_⟩
  · show said (sentencePieces false _) = _
    rw [hpieces, said_cons, hclause, List.singleton_append]
  have hends : ∀ c ∈ (";." : Text), c ∉ front ++ " " ∧ c ∉ front ++ " " ++ " " := by
    intro c hc
    have hcases : ∀ c ∈ (";." : Text), c ∈ (",.;" : Text) ∧ c ∉ (" " : Text) := by decide
    obtain ⟨hmark, hspace⟩ := hcases c hc
    simp [hfront.no_mark c hmark, hspace]
  refine ⟨?_, said [front ++ " "], ?_, fun q hq => predicate_of_mem_said ?_ hq⟩
  · have h := sentencePieces_append (hends ';' (by decide)).2 (hends '.' (by decide)).2 hpieces
    rw [← List.append_assoc (front ++ " " : Text)]
    show said (sentencePieces false _) = _
    rw [h, said_cons, hfronts front hfront, List.singleton_append]
  · have hblank : ∀ c ∈ (name ++ " " ++ (modal ++ " " ++ rest)).head?, isBlank c = false := by
      intro c hc
      rw [List.append_assoc, List.head?_append_of_ne_nil _ hname.ne_nil] at hc
      exact hname.not_isBlank c (List.mem_of_mem_head? hc)
    have hstop := sentencePieces_stop false (name ++ " " ++ (modal ++ " " ++ rest))
    rw [sentencePieces_true hblank, hpieces] at hstop
    have h := sentencePieces_append (hends ';' (by decide)).1 (hends '.' (by decide)).1 hstop
    rw [List.append_nil] at h
    show said (sentencePieces false _) = _
    rw [h, said_cons, said_cons _ pieces, hclause, List.singleton_append]
  · rw [Verbless, Text.words_concat_space]
    exact hfront.verbless

/-- A comment with a front says what the clause of its modal phrase says, of the subject that the
front leaves to it, and otherwise nothing. -/
theorem propositions_modalComment {front rest : Text} (hfront : IsPlain front)
    (hrest : (∀ phrase ∈ modals, ¬ phrase <:+: rest) ∨ ¬ ("be" : Text) <+: name) :
    ∃ silent, propositions (supplySubject name (modalComment front modal rest)) =
        silent ++ (propositions (suppliedClause (subjectLead (modalComment front modal rest)) name
          modal rest)).modifyHead
            (·.about (subjectBehind (modalComment front modal rest) front name)) ∧
      ∀ q ∈ silent, q.predicate = [] := by
  obtain ⟨p, others, hclause, hsubject, hfronts⟩ := propositions_front hname hmodal
    (Text.insertBeforeEach (subjectLead (modalComment front modal rest) ++ name ++ " ") modals rest)
  obtain ⟨hspaced, silent, hstopped, hsilent⟩ := hfronts front hfront
  rw [supplySubject_front hname hmodal hfront hrest]
  rw [← suppliedClause] at hclause hspaced hstopped
  by_cases hparenthesis : (modalComment front modal rest).contains '(' = true
  · have hlead : subjectLead (modalComment front modal rest) = " " := if_pos hparenthesis
    refine ⟨[], ?_, fun q hq => absurd hq List.not_mem_nil⟩
    rw [hclause, subjectBehind, if_pos hparenthesis]
    rw [hlead] at hspaced ⊢
    exact hspaced
  · have hlead : subjectLead (modalComment front modal rest) = ". " := if_neg hparenthesis
    refine ⟨silent, ?_, hsilent⟩
    rw [hclause, subjectBehind, if_neg hparenthesis, ← hsubject]
    rw [hlead] at hstopped ⊢
    exact hstopped

/-- Such a clause says something. -/
theorem propositions_suppliedClause_ne_nil (lead rest : Text) :
    propositions (suppliedClause lead name modal rest) ≠ [] := by
  obtain ⟨p, others, hclause, -⟩ := propositions_front hname hmodal
    (Text.insertBeforeEach (lead ++ name ++ " ") modals rest)
  rw [suppliedClause, hclause]
  exact List.cons_ne_nil p others

end Clause

end ProseGuard.Comment
