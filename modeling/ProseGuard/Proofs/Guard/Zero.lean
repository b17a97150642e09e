import ProseGuard.Proofs.Guard.NumberComparisons
import ProseGuard.Proofs.Guard.Surroundings

/-!
# Zero as a word and as a number

A relation may be said to the word "zero" as well as to the number, in surroundings that say nothing
themselves. The number is compared with as the relation says, while the word is only told equal or
unequal. Main statement: `suffix_zero`, by which the two agree exactly for these two relations. That
they differ for others is shown by `suffix_zero_differs`.
-/

namespace ProseGuard.Guard

open Text (firstMatch isWordChar isAsciiDigit isBlank)

/-! ## Comparisons -/

/-- The operators and the phrases for relations. -/
def relationTexts : List (Text × Relation) :=
  operators ++ verbalRelations

/-- The word and the number. -/
def zeros : List Text := ["zero", "0"]

/-- A relation said to an operand. -/
def comparison (phrase operand : Text) : Text :=
  phrase ++ (" " ++ operand)

variable (s : Surroundings) {phrase operand passed rest word : Text} {relation : Relation}
  {meaning : Relation × Operand}

/-- What is before an operand in its surroundings. -/
theorem Surroundings.around_comparison (phrase operand : Text) :
    s.around (comparison phrase operand) =
      (s.before ++ (phrase ++ " ")) ++ (operand ++ s.behind) := by
  simp only [around, comparison, List.append_assoc]

/-- Every word of the catalogue ends with one that has no space in it and says the same. -/
theorem exists_lastWord : ∀ entry ∈ catalogue, ∃ lead ∈ (["", "strictly "] : List Text),
    ∃ last ∈ catalogue, entry.1 = lead ++ last.1 ∧ last.2 = entry.2 ∧ .char ' ' ∉ last.1 := by
  decide +kernel

section Words

variable (hphrase : (phrase, relation) ∈ relationTexts) (hoperand : operand ∈ zeros)

include hphrase hoperand

/-- A word of the catalogue that stands in a comparison is its operand. -/
theorem eq_operand_of_comparison_eq {left right : Text} (hword : (word, meaning) ∈ catalogue)
    (hspace : .char ' ' ∉ word) (h : comparison phrase operand = left ++ (word ++ right)) :
    word = operand ∧ left = phrase ++ " " := by
  have hrelation : ∀ entry ∈ relationTexts, ∀ other ∈ catalogue,
      ¬ other.1 <:+: (entry.1 ++ " " : Text) := by decide +kernel
  have hwhole : ∀ operand ∈ zeros, ∀ other ∈ catalogue,
      other.1 <:+: operand → other.1 = operand := by decide +kernel
  have hseam : ∀ c ∈ (phrase ++ " " : Text).getLast?, c ∉ word := by
    intro c hc
    rw [List.getLast?_append_of_ne_nil _ (by decide)] at hc
    exact Option.mem_some_iff.1 hc ▸ hspace
  have hparts : (phrase ++ " " : Text) ++ operand = left ++ (word ++ right) := by
    rw [List.append_assoc]
    exact h
  rcases Text.beside_of_append_eq hparts (.inl hseam) with ⟨tail, hplace, -⟩ | ⟨start, rfl, hplace⟩
  · have hpart : word <:+: phrase ++ " " := by
      rw [hplace]
      exact List.infix_append' left word tail
    exact absurd hpart (hrelation _ hphrase _ hword)
  · have hpart : word <:+: operand := by
      rw [hplace]
      exact List.infix_append' start word right
    obtain rfl : word = operand := hwhole operand hoperand _ hword hpart
    have hlength := congrArg List.length hplace
    rw [List.length_append, List.length_append] at hlength
    obtain rfl : start = [] := List.length_eq_zero_iff.1 (by omega)
    exact ⟨rfl, List.append_nil _⟩

/-- So is one that stands in the surroundings of a comparison or in itself. -/
theorem Surroundings.eq_operand_of_around_eq (hword : (word, meaning) ∈ catalogue)
    (h : s.around (comparison phrase operand) = passed ++ (word ++ rest))
    (hpassed : ∀ c ∈ passed.getLast?, isWordChar c = false)
    (hrest : ∀ c ∈ rest.head?, isWordChar c = false) :
    word = operand ∧ passed = s.before ++ (phrase ++ " ") := by
  obtain ⟨lead, hlead, ⟨last, _⟩, hlast, rfl, rfl, hspace⟩ := exists_lastWord _ hword
  dsimp only at hword hlast hspace h
  have hparts : s.around (comparison phrase operand) = (passed ++ lead) ++ (last ++ rest) := by
    rw [h]
    simp only [List.append_assoc]
  rcases s.place_of_around_eq hspace hparts with
    ⟨tail, hbefore, rfl⟩ | ⟨left, right, hmiddle, hleft, rfl⟩ | ⟨start, hbehind, hstart⟩
  · refine absurd ⟨passed, tail, ?_, hpassed, fun c hc => ?_⟩ (s.neutral_before.no_word _ hword)
    · rw [hbefore]
      simp only [List.append_assoc]
    · exact hrest c (List.mem_head?_append_of_mem_head? hc)
  · obtain ⟨rfl, rfl⟩ := eq_operand_of_comparison_eq hphrase hoperand hlast hspace hmiddle
    have hwhole : ∀ entry ∈ catalogue, ∀ lead ∈ (["", "strictly "] : List Text),
        ∀ operand ∈ zeros, entry.1 = lead ++ operand → lead = [] := by
      decide
    obtain rfl := hwhole _ hword lead hlead _ hoperand rfl
    rw [List.append_nil] at hleft
    exact ⟨rfl, hleft⟩
  · refine absurd ⟨start, rest, hbehind, fun c hc => ?_, hrest⟩
      (s.neutral_behind.no_word _ hlast)
    have hends : c ∈ (passed ++ lead).getLast? := by
      rw [hstart, ← List.append_assoc]
      exact List.mem_getLast?_append_of_mem_getLast? hc
    rcases List.mem_pair.1 hlead with rfl | rfl
    · exact hpassed c (by simpa using hends)
    · rw [List.getLast?_append_of_ne_nil _ (by decide)] at hends
      rw [← Option.mem_some_iff.1 hends]
      decide

omit hoperand in
/-- Only the unequal sign denies what stands behind it and a space. -/
theorem Surroundings.eq_unequal_of_suffix {lead : Text} (hlead : lead ∈ denials)
    (h : lead <:+ s.before ++ (phrase ++ " ")) : phrase = "!=" := by
  have hshort : ∀ entry ∈ relationTexts, ∀ lead ∈ denials, ∀ start ∈ (["", " "] : List Text),
      lead <:+ start ++ (entry.1 ++ " ") → entry.1 = "!=" := by
    decide +kernel
  have hlong : ∀ entry ∈ relationTexts, ∀ lead ∈ denials,
      (" " ++ (entry.1 ++ " ") : Text) <:+ lead → entry.1 = "!=" := by
    decide +kernel
  obtain hempty | ⟨start, c, hstart⟩ := List.eq_nil_or_concat s.before
  · rw [hempty] at h
    exact hshort _ hphrase lead hlead "" (by decide) h
  · obtain rfl : c = .char ' ' := s.before_ends c (by rw [hstart]; simp)
    rw [hstart, List.concat_eq_append, List.append_assoc] at h
    rcases List.suffix_or_suffix_of_suffix h (List.suffix_append start _) with h | h
    · exact hshort _ hphrase lead hlead " " (by decide) h
    · exact hlong _ hphrase lead hlead h

/-- A denied word is read of a comparison by the unequal sign only, and it is the operand. -/
theorem Surroundings.eq_unequal_of_negatedWord {before : Text}
    (h : s.around (comparison phrase operand) = passed ++ rest)
    (hread : negatedWord before rest = some meaning) :
    phrase = "!=" ∧ (operand, meaning) ∈ catalogue := by
  obtain ⟨lead, hlead, tail, rfl, hword⟩ := exists_lead_of_negatedWord hread
  obtain ⟨word, behind, hmem, rfl, hbehind⟩ := exists_word_of_wordAt hword
  have hends : ∀ lead ∈ denials, lead ≠ [] ∧ ∀ c ∈ lead.getLast?, isWordChar c = false := by
    decide
  obtain ⟨hne, hlast⟩ := hends lead hlead
  rw [← List.append_assoc] at h
  obtain ⟨rfl, hplace⟩ := s.eq_operand_of_around_eq hphrase hoperand hmem h
    (by rwa [List.getLast?_append_of_ne_nil _ hne]) hbehind
  exact ⟨s.eq_unequal_of_suffix hphrase hlead ⟨passed, hplace⟩, hmem⟩

/-- No word behind "non" is read of a comparison. -/
theorem Surroundings.firstMatch_nonWord_eq_none :
    firstMatch nonWord [] (s.around (comparison phrase operand)) = none := by
  refine Text.firstMatch_eq_none_of_forall fun passed rest meaning h hread => ?_
  obtain ⟨lead, hlead, tail, rfl, hword⟩ := exists_lead_of_nonWord hread
  obtain ⟨word, behind, hmem, rfl, -⟩ := exists_word_of_wordAt hword
  have hspace : ∀ lead ∈ nonLeads, ∀ entry ∈ nonCatalogue,
      .char ' ' ∉ (lead ++ entry.1 : Text) := by decide
  have hnone : ∀ lead ∈ nonLeads, ∀ entry ∈ nonCatalogue, ∀ other ∈ relationTexts,
      ∀ operand ∈ zeros, ¬ (lead ++ entry.1 : Text) <:+: comparison other.1 operand := by
    decide +kernel
  rw [← List.append_assoc lead] at h
  rcases s.place_of_around_eq (hspace lead hlead _ hmem) h with
    ⟨tail, hplace, -⟩ | ⟨left, right, hplace, -⟩ | ⟨start, hplace, -⟩
  · refine s.neutral_before.no_non lead hlead _ hmem ?_
    rw [hplace]
    exact List.infix_append' _ _ _
  · refine hnone lead hlead _ hmem _ hphrase operand hoperand ?_
    rw [hplace]
    exact List.infix_append' _ _ _
  · refine s.neutral_behind.no_non lead hlead _ hmem ?_
    rw [hplace]
    exact List.infix_append' _ _ _

/-- A plain word that is read of a comparison is the operand. -/
theorem Surroundings.mem_catalogue_of_plainWord
    (h : s.around (comparison phrase operand) = passed ++ rest)
    (hread : plainWord (passed.reverse ++ []) rest = some meaning) :
    (operand, meaning) ∈ catalogue := by
  rw [List.append_nil] at hread
  obtain ⟨hpassed, hword⟩ := plainWord_eq_some_iff.1 hread
  obtain ⟨word, behind, hmem, rfl, hbehind⟩ := exists_word_of_wordAt hword
  rw [List.head?_reverse] at hpassed
  obtain ⟨rfl, -⟩ := s.eq_operand_of_around_eq hphrase hoperand hmem h
    (fun c hc => (hpassed c hc).1) hbehind
  exact hmem

end Words

/-! ## The word -/

section Word

/-- The word is read where it stands. -/
theorem Surroundings.wordAt_zero :
    wordAt catalogue ("zero" ++ s.behind) = some (.eq, .number 0) := by
  cases hbehind : s.behind with
  | nil => decide
  | cons c cs =>
      obtain rfl : c = .char ' ' := s.behind_begins c (by rw [hbehind]; rfl)
      rfl

theorem mem_zeros_word : ("zero" : Text) ∈ zeros := by
  decide

theorem eq_of_mem_catalogue_zero :
    ∀ entry ∈ catalogue, entry.1 = "zero" → entry.2 = (.eq, .number 0) := by
  decide

/-- Behind the unequal sign the word is read as denied. -/
theorem Surroundings.firstMatch_negatedWord_zero :
    firstMatch negatedWord [] (s.around (comparison "!=" "zero")) = some (.eq, .number 0) := by
  have hphrase : (("!=" : Text), Relation.ne) ∈ relationTexts := by decide
  have hhere : negatedWord (s.before.reverse ++ []) (comparison "!=" "zero" ++ s.behind) =
      some (.eq, .number 0) := s.wordAt_zero
  refine Text.firstMatch_eq_some_of_forall rfl (hhere ▸ Option.some_ne_none _)
    fun passed rest meaning h hread => ?_
  exact eq_of_mem_catalogue_zero _
    (s.eq_unequal_of_negatedWord hphrase mem_zeros_word h hread).2 rfl

variable (hphrase : (phrase, relation) ∈ relationTexts)

include hphrase

/-- Without regard to denials, it is read as a plain word. -/
theorem Surroundings.firstMatch_plainWord_zero :
    firstMatch plainWord [] (s.around (comparison phrase "zero")) = some (.eq, .number 0) := by
  have hspace : (s.before ++ (phrase ++ " ") : Text).getLast? = some (.char ' ') := by
    rw [← List.append_assoc, List.getLast?_append_of_ne_nil _ (by decide)]
    rfl
  have hhere : plainWord ((s.before ++ (phrase ++ " ") : Text).reverse ++ [])
      ("zero" ++ s.behind) = some (.eq, .number 0) := by
    refine plainWord_eq_some_iff.2 ⟨fun c hc => ?_, s.wordAt_zero⟩
    rw [List.append_nil, List.head?_reverse, hspace] at hc
    rw [← Option.mem_some_iff.1 hc]
    decide
  refine Text.firstMatch_eq_some_of_forall (s.around_comparison phrase "zero")
    (hhere ▸ Option.some_ne_none _) fun passed rest meaning h hread => ?_
  exact eq_of_mem_catalogue_zero _
    (s.mem_catalogue_of_plainWord hphrase mem_zeros_word h hread) rfl

/-- The word is told equal or unequal, whatever the relation. -/
theorem Surroundings.readingOf_word :
    readingOf (s.around (comparison phrase "zero")) =
      .suffix (.compare (if relation = .ne then .ne else .eq) (.number 0)) := by
  have hunequal : ∀ entry ∈ relationTexts, entry.1 = "!=" ↔ entry.2 = .ne := by decide
  by_cases hrelation : relation = .ne
  · obtain rfl : phrase = "!=" := (hunequal _ hphrase).2 hrelation
    rw [reading_of_negatedWord s.firstMatch_negatedWord_zero, if_pos hrelation]
    rfl
  · have hnegated : firstMatch negatedWord [] (s.around (comparison phrase "zero")) = none := by
      refine Text.firstMatch_eq_none_of_forall fun passed rest meaning h hread => hrelation ?_
      exact (hunequal _ hphrase).1
        (s.eq_unequal_of_negatedWord hphrase mem_zeros_word h hread).1
    have hnon := s.firstMatch_nonWord_eq_none hphrase mem_zeros_word
    rw [reading_of_plainWord hnegated hnon (s.firstMatch_plainWord_zero hphrase),
      if_neg hrelation]
    rfl

end Word

/-! ## The number -/

/-- The text with the first few of the phrases for relations replaced. -/
def withFirstOperators (count : Nat) (text : Text) : Text :=
  (verbalRelations.take count).foldl
    (fun text (phrase, relation) => Text.replaceAll phrase relation.symbol text) text

/-- One more phrase is replaced in what the ones before it have left. -/
theorem withFirstOperators_succ {count : Nat} {entry : Text × Relation}
    (hentry : verbalRelations[count]? = some entry) (text : Text) :
    withFirstOperators (count + 1) text =
      Text.replaceAll entry.1 entry.2.symbol (withFirstOperators count text) := by
  rw [withFirstOperators, List.take_add_one, hentry, List.foldl_append]
  rfl

/-- A phrase that begins before a relation and ends in it begins with a shorter phrase. -/
theorem exists_phrase_of_straddling : ∀ entry ∈ relationTexts, ∀ count < verbalRelations.length,
    ∀ other ∈ verbalRelations[count]?, ∀ k < other.1.length + 1, 0 < k →
      other.1.drop k <+: withFirstOperators count (entry.1 ++ " ") →
        ∃ shorter ∈ verbalRelations, shorter.1 <:+: other.1.take k := by
  decide +kernel

/-- A relation is rewritten to an operator that says it, and a space stays behind it. -/
theorem withOperators_relation : ∀ entry ∈ relationTexts,
    (withOperators (entry.1 ++ " ")).reverse.head? = some (.char ' ') ∧
      (∀ c ∈ withOperators (entry.1 ++ " "), ¬ isAsciiDigit c) ∧
      relationBefore (withOperators (entry.1 ++ " ")).reverse = entry.2 := by
  decide +kernel

/-- The number in a comparison whose relation is rewritten. -/
def Surroundings.zero (phrase : Text) : Numeral where
  before := s.before ++ withOperators (phrase ++ " ")
  negative := false
  digits := "0"
  behind := s.behind

section Number

variable (hphrase : (phrase, relation) ∈ relationTexts)

include hphrase

/-- No phrase for a relation that is replaced begins in the surroundings. -/
theorem Surroundings.withFirstOperators_append {count : Nat}
    (hcount : count ≤ verbalRelations.length) :
    withFirstOperators count (s.before ++ (phrase ++ " ")) =
      s.before ++ withFirstOperators count (phrase ++ " ") := by
  induction count with
  | zero => rfl
  | succ count ih =>
      obtain ⟨entry, hentry⟩ : ∃ entry, verbalRelations[count]? = some entry :=
        ⟨_, List.getElem?_eq_getElem hcount⟩
      rw [withFirstOperators_succ hentry, withFirstOperators_succ hentry,
        ih (Nat.le_of_succ_le hcount)]
      refine Text.replaceAll_append_of_forall _ fun start hstart hne hprefix => ?_
      obtain ⟨shorter, hshorter, hpart⟩ : ∃ shorter ∈ verbalRelations, shorter.1 <:+: start := by
        rcases Text.prefix_append_cases hprefix with hwithin | ⟨tail, htail, hparts⟩
        · exact ⟨entry, List.mem_of_getElem? hentry, hwithin.isInfix⟩
        · have hk : start.length < entry.1.length + 1 := by
            rw [hparts, List.length_append]
            omega
          have hstraddling := exists_phrase_of_straddling _ hphrase count hcount entry hentry
            start.length hk (List.length_pos_iff.2 hne)
          rw [hparts, List.drop_left, List.take_left] at hstraddling
          exact hstraddling htail
      exact s.neutral_before.no_phrase _ hshorter (hpart.trans hstart.isInfix)

/-- The number stands in its comparison. -/
theorem Surroundings.withOperators_around :
    withOperators (s.around (comparison phrase "0")) =
      (s.zero phrase).before ++ ((s.zero phrase).written ++ (s.zero phrase).behind) := by
  have hdigit : ∀ entry ∈ verbalRelations, .char '0' ∉ entry.1 := by decide
  have htext : s.around (comparison phrase "0") =
      (s.before ++ (phrase ++ " ")) ++ .char '0' :: s.behind := s.around_comparison phrase "0"
  have hbefore : withOperators (s.before ++ (phrase ++ " ")) =
      s.before ++ withOperators (phrase ++ " ") :=
    s.withFirstOperators_append hphrase Nat.le.refl
  rw [htext, withOperators_append_cons hdigit, hbefore,
    withOperators_eq_self s.neutral_behind.no_phrase]
  rfl

/-- A space stands before it. -/
theorem Surroundings.getLast?_before_zero :
    (s.zero phrase).before.getLast? = some (.char ' ') := by
  have hspace := (withOperators_relation _ hphrase).1
  have hne : withOperators (phrase ++ " ") ≠ [] := by
    intro h
    rw [h] at hspace
    exact nomatch hspace
  rwa [zero, List.getLast?_append_of_ne_nil _ hne, ← List.head?_reverse]

/-- No other number begins before it. -/
theorem Surroundings.isFirst_zero :
    (s.zero phrase).IsFirst (withOperators (s.around (comparison phrase "0"))) := by
  have hlast := s.getLast?_before_zero hphrase
  have hstands : (s.zero phrase).StandsIn (withOperators (s.around (comparison phrase "0"))) := by
    constructor
    · exact s.withOperators_around hphrase
    · exact List.cons_ne_nil _ _
    · have hall : ∀ c ∈ ("0" : Text), isAsciiDigit c := by decide
      exact hall
    · rw [hlast]
      decide
    · intro c hc
      rw [s.behind_begins c hc]
      decide
  refine hstands.isFirst (fun c hc => ?_) ?_
  · rcases List.mem_append.1 hc with hc | hc
    · exact s.neutral_before.no_digit c hc
    · exact (withOperators_relation _ hphrase).2.1 c hc
  · rw [hlast]
    decide

/-- The relation is read before it. -/
theorem Surroundings.relationBefore_zero :
    relationBefore (s.zero phrase).before.reverse = relation := by
  obtain ⟨hspace, -, hrelation⟩ := withOperators_relation _ hphrase
  obtain hempty | ⟨start, c, hstart⟩ := List.eq_nil_or_concat s.before
  · rw [zero, hempty, List.nil_append]
    exact hrelation
  · obtain rfl : c = .char ' ' := s.before_ends c (by rw [hstart]; simp)
    obtain ⟨tail, htail⟩ : ∃ tail, (withOperators (phrase ++ " ")).reverse = .char ' ' :: tail :=
      ⟨_, (List.cons_head?_tail hspace).symm⟩
    have hunspaced : unspaced (s.zero phrase).before.reverse =
        unspaced (withOperators (phrase ++ " ")).reverse ++ .char ' ' :: start.reverse := by
      simp [zero, hstart, htail, unspaced]
    exact (relationBefore_eq_of_unspaced hunspaced).trans hrelation

/-- No word decides a comparison with the number. -/
theorem Surroundings.wordless_number : Wordless (s.around (comparison phrase "0")) := by
  have hoperand : ("0" : Text) ∈ zeros := by decide
  have hnot : ∀ entry ∈ catalogue, entry.1 ≠ "0" := by decide
  constructor
  · refine Text.firstMatch_eq_none_of_forall fun passed rest meaning h hread => ?_
    exact hnot _ (s.eq_unequal_of_negatedWord hphrase hoperand h hread).2 rfl
  · exact s.firstMatch_nonWord_eq_none hphrase hoperand
  · refine Text.firstMatch_eq_none_of_forall fun passed rest meaning h hread => ?_
    exact hnot _ (s.mem_catalogue_of_plainWord hphrase hoperand h hread) rfl

end Number

/-! ## Agreement -/

/-- Blanks at the outer ends of the surroundings come off. -/
theorem Surroundings.trimmed_comparison (hphrase : (phrase, relation) ∈ relationTexts)
    (hoperand : operand ∈ zeros) :
    Text.trimmed (s.around (comparison phrase operand)) =
      s.trimmed.around (comparison phrase operand) := by
  have hends : ∀ entry ∈ relationTexts, ∀ operand ∈ zeros, comparison entry.1 operand ≠ [] ∧
      (∀ c ∈ (comparison entry.1 operand).head?, isBlank c = false) ∧
      ∀ c ∈ (comparison entry.1 operand).getLast?, isBlank c = false := by
    decide +kernel
  obtain ⟨hne, hfirst, hlast⟩ := hends _ hphrase operand hoperand
  exact s.trimmed_around hne hfirst hlast

/-- Behind a relation and within surroundings that say nothing, the word zero is told equal, or
unequal by the unequal sign, and the number is compared with as the relation says. So the two say
the same exactly if the relation is equality or its denial. -/
theorem suffix_zero (hphrase : (phrase, relation) ∈ relationTexts) :
    (Suffix.ofPredicate? (s.around (comparison phrase "zero"))).map Suffix.text =
        some (if relation = .ne then "!=0" else "==0") ∧
      (Suffix.ofPredicate? (s.around (comparison phrase "0"))).map Suffix.text =
        some (relation.symbol ++ "0") ∧
      ((Suffix.ofPredicate? (s.around (comparison phrase "zero"))).map Suffix.text =
          (Suffix.ofPredicate? (s.around (comparison phrase "0"))).map Suffix.text ↔
        relation = .eq ∨ relation = .ne) := by
  have hword : Suffix.ofPredicate? (s.around (comparison phrase "zero")) =
      some (.compare (if relation = .ne then .ne else .eq) (.number 0)) := by
    rw [ofPredicate?_eq_some_iff, s.trimmed_comparison hphrase (by decide)]
    exact s.trimmed.readingOf_word hphrase
  have hnumber : Suffix.ofPredicate? (s.around (comparison phrase "0")) =
      some (.compare relation (.number 0)) := by
    have hwords := s.trimmed.wordless_number hphrase
    have hfirst := s.trimmed.isFirst_zero hphrase
    rw [← s.trimmed_comparison hphrase (by decide)] at hwords hfirst
    have hreadable : (s.trimmed.zero phrase).IsReadable := by
      have hzero : 1 ≤ maxDigits ∧ -2 ^ 31 ≤ (0 : Int) ∧ (0 : Int) ≤ 2 ^ 31 - 1 := by decide
      exact hzero
    rw [suffix_of_isFirst hwords hfirst, if_pos hreadable, s.trimmed.relationBefore_zero hphrase]
    rfl
  rw [hword, hnumber]
  cases relation <;> decide

/-- A sentence around a comparison. -/
def sentence : Surroundings where
  before := "it is strictly "
  behind := " here"
  neutral_before := by
    refine .of_absent ?_ ?_ ?_ ?_ <;> decide +kernel
  neutral_behind := by
    refine .of_absent ?_ ?_ ?_ ?_ <;> decide +kernel
  before_ends := by decide
  behind_begins := by decide

/-- In the sentence the word zero is not told to be exceeded. -/
theorem suffix_zero_sentence :
    (("greater than" : Text), Relation.gt) ∈ relationTexts ∧
      (Suffix.ofPredicate? (sentence.around (comparison "greater than" "zero"))).map Suffix.text =
        some "==0" ∧
      (Suffix.ofPredicate? (sentence.around (comparison "greater than" "0"))).map Suffix.text =
        some ">0" := by
  have hphrase : (("greater than" : Text), Relation.gt) ∈ relationTexts := by decide
  obtain ⟨hword, hnumber, -⟩ := suffix_zero sentence hphrase
  exact ⟨hphrase, hword, hnumber⟩

/-- No surroundings at all. -/
def nothing : Surroundings where
  before := []
  behind := []
  neutral_before := by
    refine .of_absent ?_ ?_ ?_ ?_ <;> decide
  neutral_behind := by
    refine .of_absent ?_ ?_ ?_ ?_ <;> decide
  before_ends := by decide
  behind_begins := by decide

/-- Greater than the word is not greater than the number. -/
theorem suffix_zero_differs :
    nothing.around (comparison "greater than" "zero") = "greater than zero" ∧
      nothing.around (comparison "greater than" "0") = "greater than 0" ∧
      (("greater than" : Text), Relation.gt) ∈ relationTexts ∧
      (Suffix.ofPredicate? "greater than zero").map Suffix.text = some "==0" ∧
      (Suffix.ofPredicate? "greater than 0").map Suffix.text = some ">0" := by
  decide +kernel

end ProseGuard.Guard
