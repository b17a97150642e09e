import Mathlib.Data.List.Basic
import ProseGuard.Proofs.Guard.Readings
import ProseGuard.Proofs.Text.Search

/-!
# Words that predicates are read for

The rules for words are tried in turn, and each takes the leftmost word that it can read
(`Takes`). Which word that is, is determined (`Takes.unique`). Main statement: `takes_whole_word`,
by which the word that is taken is a whole word unless a hyphen touches it from behind, or the "non"
before it from the front. That one can is shown by `takes_part_of_nullTerminated`.
-/

namespace ProseGuard.Guard

open Text (firstMatch isWordChar)

/-- The rules that read words, in the order in which they are tried. -/
inductive WordRule where
  | denied
  | non
  | plain
deriving DecidableEq

namespace WordRule

/-- What the rule reads at a place. -/
def read : WordRule → Text → Text → Option (Relation × Operand)
  | denied => negatedWord
  | non => nonWord
  | plain => plainWord

/-- The words that the rule looks for. -/
def words : WordRule → List (Text × Relation × Operand)
  | non => nonCatalogue
  | _ => catalogue

/-- What the rule asks for before a word. -/
def leads : WordRule → List Text
  | denied => denials
  | non => nonLeads
  | plain => [""]

/-- What a predicate says in which the rule has read a comparison. -/
def suffix : WordRule → Relation × Operand → Suffix
  | plain, meaning => .compare meaning.1 meaning.2
  | _, meaning => .compare meaning.1.negation meaning.2

/-- The rules that are tried before. -/
def earlier : WordRule → List WordRule
  | denied => []
  | non => [denied]
  | plain => [denied, non]

end WordRule

/-- A word in a text, with what stands around it and what a rule makes of it. -/
structure WordPlace where
  rule : WordRule
  before : Text
  /-- What the rule asks for before the word. -/
  lead : Text
  word : Text
  meaning : Relation × Operand
  behind : Text

/-- What is said by a predicate that a word decides. -/
def WordPlace.suffix (place : WordPlace) : Suffix :=
  place.rule.suffix place.meaning

/-- The text from the lead of the word on. -/
def WordPlace.rest (place : WordPlace) : Text :=
  place.lead ++ (place.word ++ place.behind)

/-- The word decides the text: its rule is the first that finds a word, and the word is the first
that the rule finds. -/
structure Takes (text : Text) (place : WordPlace) : Prop where
  parts : text = place.before ++ place.rest
  lead_mem : place.lead ∈ place.rule.leads
  word_mem : (place.word, place.meaning) ∈ place.rule.words
  found : place.rule.read place.before.reverse place.rest = some place.meaning
  leftmost : ∀ left right, place.before = left ++ right → right ≠ [] →
    place.rule.read left.reverse (right ++ place.rest) = none
  first : ∀ rule ∈ place.rule.earlier, firstMatch rule.read [] text = none

/-- Whether a character goes on with a word that it touches. -/
def joinsWord (c : Point) : Bool :=
  isWordChar c || c = '-'

/-- The word is whole: no character behind it joins it, and none before it, or it stands behind a
"non" before which none does. -/
def WordPlace.IsWhole (place : WordPlace) : Prop :=
  (∀ c ∈ place.behind.head?, joinsWord c = false) ∧
    ((∀ c ∈ (place.before ++ place.lead).getLast?, joinsWord c = false) ∨
      ∃ non ∈ nonLeads, ∃ front, place.before ++ place.lead = front ++ non ∧
        ∀ c ∈ front.getLast?, joinsWord c = false)

variable {text : Text}

/-! ## The word that is taken -/

/-- Where a rule reads, it reads a word behind what it asks for. -/
theorem exists_word_of_read {rule : WordRule} {before : Text} {meaning : Relation × Operand}
    (h : rule.read before text = some meaning) :
    ∃ lead ∈ rule.leads, ∃ word behind, (word, meaning) ∈ rule.words ∧
      text = lead ++ (word ++ behind) ∧ ∀ c ∈ behind.head?, isWordChar c = false := by
  have hread : ∃ lead ∈ rule.leads, ∃ rest, text = lead ++ rest ∧
      wordAt rule.words rest = some meaning := by
    cases rule with
    | denied =>
        have hdenied : negatedWord before text = some meaning := h
        exact exists_lead_of_negatedWord hdenied
    | non => exact exists_lead_of_nonWord h
    | plain => exact ⟨"", by decide, text, rfl, (plainWord_eq_some_iff.1 h).2⟩
  obtain ⟨lead, hlead, rest, rfl, hword⟩ := hread
  obtain ⟨word, behind, hmem, rfl, hbehind⟩ := exists_word_of_wordAt hword
  exact ⟨lead, hlead, word, behind, hmem, rfl, hbehind⟩

/-- The first word that a rule finds decides, if no rule before it finds one. -/
theorem exists_takes (rule : WordRule) {meaning : Relation × Operand}
    (h : firstMatch rule.read [] text = some meaning)
    (hfirst : ∀ other ∈ rule.earlier, firstMatch other.read [] text = none) :
    ∃ place, Takes text place ∧ place.rule = rule ∧ place.meaning = meaning := by
  obtain ⟨before, rest, rfl, hread, hleft⟩ := Text.firstMatch_eq_some_iff.1 h
  obtain ⟨lead, hlead, word, behind, hmem, rfl, -⟩ := exists_word_of_read hread
  rw [List.append_nil] at hread
  refine ⟨⟨rule, before, lead, word, meaning, behind⟩,
    ⟨rfl, hlead, hmem, hread, fun left right heq hne => ?_, hfirst⟩, rfl, rfl⟩
  have hnone := hleft left right heq hne
  rwa [List.append_nil] at hnone

/-- A text is decided by a word, or by none. -/
theorem exists_takes_or_wordless (text : Text) :
    (∃ place, Takes text place ∧ readingOf text = .suffix place.suffix) ∨ Wordless text := by
  cases hdenied : firstMatch negatedWord [] text with
  | some meaning =>
      obtain ⟨place, hplace, hrule, hmeaning⟩ := exists_takes .denied hdenied
        (by simp [WordRule.earlier])
      refine .inl ⟨place, hplace, ?_⟩
      rw [reading_of_negatedWord hdenied, WordPlace.suffix, hrule, hmeaning]
      rfl
  | none =>
      cases hnon : firstMatch nonWord [] text with
      | some meaning =>
          obtain ⟨place, hplace, hrule, hmeaning⟩ := exists_takes .non hnon
            (by simpa [WordRule.earlier, WordRule.read] using hdenied)
          refine .inl ⟨place, hplace, ?_⟩
          rw [reading_of_nonWord hdenied hnon, WordPlace.suffix, hrule, hmeaning]
          rfl
      | none =>
          cases hplain : firstMatch plainWord [] text with
          | some meaning =>
              obtain ⟨place, hplace, hrule, hmeaning⟩ := exists_takes .plain hplain
                (by simpa [WordRule.earlier, WordRule.read] using ⟨hdenied, hnon⟩)
              refine .inl ⟨place, hplace, ?_⟩
              rw [reading_of_plainWord hdenied hnon hplain, WordPlace.suffix, hrule, hmeaning]
              rfl
          | none => exact .inr ⟨hdenied, hnon, hplain⟩

/-- No two words that a rule reads begin alike, what it asks for before them included. -/
theorem eq_of_words_alike : ∀ rule : WordRule, ∀ lead ∈ rule.leads, ∀ entry ∈ rule.words,
    ∀ other ∈ rule.leads, ∀ entry' ∈ rule.words,
      lead ++ entry.1 <+: other ++ entry'.1 → lead = other ∧ entry = entry' := by
  intro rule
  cases rule <;> decide

/-- What a rule reads can be cut into what it asks for, the word and the rest in one way only. -/
theorem eq_of_rest_eq {rule : WordRule} {lead other behind behind' : Text}
    {entry entry' : Text × Relation × Operand} (hlead : lead ∈ rule.leads)
    (hentry : entry ∈ rule.words) (hother : other ∈ rule.leads) (hentry' : entry' ∈ rule.words)
    (h : lead ++ (entry.1 ++ behind) = other ++ (entry'.1 ++ behind')) :
    lead = other ∧ entry = entry' ∧ behind = behind' := by
  rw [← List.append_assoc, ← List.append_assoc] at h
  -- both words stand at one place behind their leads, so one of them begins as the other does
  have halike := List.prefix_or_prefix_of_prefix (List.prefix_append (lead ++ entry.1) behind)
    (h ▸ List.prefix_append (other ++ entry'.1) behind')
  obtain ⟨rfl, rfl⟩ : lead = other ∧ entry = entry' := by
    rcases halike with halike | halike
    · exact eq_of_words_alike rule lead hlead entry hentry other hother entry' hentry' halike
    · obtain ⟨hleads, hentries⟩ :=
        eq_of_words_alike rule other hother entry' hentry' lead hlead entry hentry halike
      exact ⟨hleads.symm, hentries.symm⟩
  exact ⟨rfl, rfl, List.append_cancel_left h⟩

/-- A rule whose word is taken finds one. -/
theorem Takes.firstMatch_ne_none {place : WordPlace} (h : Takes text place) :
    firstMatch place.rule.read [] text ≠ none := by
  intro hnone
  have hfound := Text.firstMatch_eq_none_iff.1 hnone place.before place.rest h.parts
  rw [List.append_nil, h.found] at hfound
  exact nomatch hfound

/-- At most one rule decides a text. -/
theorem Takes.rule_unique {place other : WordPlace} (h : Takes text place)
    (hother : Takes text other) : place.rule = other.rule := by
  have hall : ∀ rule rule' : WordRule, rule = rule' ∨ rule ∈ rule'.earlier ∨
      rule' ∈ rule.earlier := by
    intro rule rule'
    cases rule <;> cases rule' <;> decide
  rcases hall place.rule other.rule with heq | hearlier | hearlier
  · exact heq
  · exact absurd (hother.first _ hearlier) h.firstMatch_ne_none
  · exact absurd (h.first _ hearlier) hother.firstMatch_ne_none

/-- A rule does not take a word behind one that it could take. -/
theorem Takes.gap_eq_nil {place other : WordPlace} {gap : Text} (h : Takes text place)
    (hother : Takes text other) (hgap : other.before = place.before ++ gap)
    (hrest : place.rest = gap ++ other.rest) : gap = [] := by
  by_contra hne
  have hnone := hother.leftmost place.before gap hgap hne
  rw [← hrest, ← h.rule_unique hother, h.found] at hnone
  exact nomatch hnone

/-- One word decides a text. -/
theorem Takes.unique {place other : WordPlace} (h : Takes text place) (hother : Takes text other) :
    place = other := by
  have hrule := h.rule_unique hother
  obtain ⟨hbefore, hrest⟩ : place.before = other.before ∧ place.rest = other.rest := by
    rcases List.append_eq_append_iff.1 (h.parts.symm.trans hother.parts) with
      ⟨gap, hgap, hrest⟩ | ⟨gap, hgap, hrest⟩
    · obtain rfl := h.gap_eq_nil hother hgap hrest
      exact ⟨by rw [hgap, List.append_nil], hrest⟩
    · obtain rfl := hother.gap_eq_nil h hgap hrest
      exact ⟨by rw [hgap, List.append_nil], hrest.symm⟩
  have hlead : other.lead ∈ place.rule.leads := hrule ▸ hother.lead_mem
  have hword : (other.word, other.meaning) ∈ place.rule.words := hrule ▸ hother.word_mem
  obtain ⟨hleads, hentries, hbehind⟩ := eq_of_rest_eq h.lead_mem h.word_mem hlead hword hrest
  obtain ⟨hwords, hmeanings⟩ := Prod.mk.inj hentries
  cases place
  cases other
  simp_all

/-! ## Whole words -/

/-- No character of words follows a word that is taken. -/
theorem Takes.not_isWordChar_behind {place : WordPlace} (h : Takes text place) :
    ∀ c ∈ place.behind.head?, isWordChar c = false := by
  obtain ⟨lead, hlead, word, behind, hmem, hrest, hends⟩ := exists_word_of_read h.found
  obtain ⟨-, -, hbehind⟩ := eq_of_rest_eq h.lead_mem h.word_mem hlead hmem hrest
  exact hbehind ▸ hends

/-- A character that is none of words joins a word only as a hyphen. -/
theorem joinsWord_eq_false_iff {c : Point} (h : isWordChar c = false) :
    joinsWord c = false ↔ c ≠ '-' := by
  simp [joinsWord, h]

/-- Before a "non" that is read no character of words stands. -/
theorem not_isWordChar_of_nonWord {before : Text} {meaning : Relation × Operand}
    (h : nonWord before text = some meaning) : ∀ c ∈ before.head?, isWordChar c = false := by
  intro c hc
  rw [nonWord, Option.mem_def.1 hc] at h
  split at h
  · exact nomatch h
  · next hword => simpa using hword

/-- What is put before a word to deny it does not join it. -/
theorem denials_do_not_join : ∀ lead ∈ denials, lead ≠ [] ∧
    ∀ c ∈ lead.getLast?, joinsWord c = false := by
  decide

/-- A "non" joins the word behind it, with its own last letter or with a hyphen. -/
theorem nonLeads_join : ∀ lead ∈ nonLeads, lead ≠ [] ∧ (∀ c ∈ lead.getLast?, joinsWord c) ∧
    ∀ other ∈ nonLeads, other.getLast? = lead.getLast? → other = lead := by
  decide

namespace Takes

variable {place : WordPlace} (h : Takes text place)

include h

/-- A denied word is joined by nothing before it. -/
theorem not_joined_of_denied (hrule : place.rule = .denied) :
    ∀ c ∈ (place.before ++ place.lead).getLast?, joinsWord c = false := by
  have hlead := h.lead_mem
  rw [hrule] at hlead
  obtain ⟨hne, hlast⟩ := denials_do_not_join place.lead hlead
  rwa [List.getLast?_append_of_ne_nil _ hne]

/-- Nor is a plain word. -/
theorem not_joined_of_plain (hrule : place.rule = .plain) :
    ∀ c ∈ (place.before ++ place.lead).getLast?, joinsWord c = false := by
  have hlead := h.lead_mem
  have hfound := h.found
  rw [hrule] at hlead hfound
  intro c hc
  rw [List.mem_singleton.1 hlead, Text.ofString_empty, List.append_nil,
    ← List.head?_reverse] at hc
  obtain ⟨hword, hhyphen⟩ := (plainWord_eq_some_iff.1 hfound).1 c hc
  exact (joinsWord_eq_false_iff hword).2 hhyphen

/-- A word behind a "non" is joined by it, and so it is whole to the left exactly if no hyphen
stands before the "non". -/
theorem non_whole_iff (hrule : place.rule = .non) :
    ((∀ c ∈ (place.before ++ place.lead).getLast?, joinsWord c = false) ∨
      ∃ non ∈ nonLeads, ∃ front, place.before ++ place.lead = front ++ non ∧
        ∀ c ∈ front.getLast?, joinsWord c = false) ↔
      ∀ c ∈ place.before.getLast?, c ≠ '-' := by
  have hlead := h.lead_mem
  have hfound := h.found
  rw [hrule] at hlead hfound
  have hword : ∀ c ∈ place.before.getLast?, isWordChar c = false := by
    rw [← List.head?_reverse]
    exact not_isWordChar_of_nonWord hfound
  obtain ⟨hne, hjoins, honly⟩ := nonLeads_join place.lead hlead
  constructor
  · rintro (hplain | ⟨non, hnon, front, hfront, hjoined⟩) c hc
    · rw [List.getLast?_append_of_ne_nil _ hne] at hplain
      obtain ⟨last, hlast⟩ : ∃ last, place.lead.getLast? = some last :=
        ⟨_, List.getLast?_eq_some_getLast hne⟩
      exact absurd (hjoins last hlast) (Bool.eq_false_iff.1 (hplain last hlast))
    · have hends : non.getLast? = place.lead.getLast? := by
        have hboth := congrArg List.getLast? hfront
        rw [List.getLast?_append_of_ne_nil _ hne,
          List.getLast?_append_of_ne_nil _ (nonLeads_join non hnon).1] at hboth
        exact hboth.symm
      obtain rfl := honly non hnon hends
      obtain rfl := List.append_cancel_right hfront
      exact (joinsWord_eq_false_iff (hword c hc)).1 (hjoined c hc)
  · intro hhyphen
    exact .inr ⟨place.lead, hlead, place.before, rfl,
      fun c hc => (joinsWord_eq_false_iff (hword c hc)).2 (hhyphen c hc)⟩

/-- A word is taken as a whole exactly if no hyphen stands behind it, or before the "non" that it is
read with. -/
theorem isWhole_iff :
    place.IsWhole ↔ (∀ c ∈ place.behind.head?, c ≠ '-') ∧
      (place.rule = .non → ∀ c ∈ place.before.getLast?, c ≠ '-') := by
  have hbehind : (∀ c ∈ place.behind.head?, joinsWord c = false) ↔
      ∀ c ∈ place.behind.head?, c ≠ '-' :=
    forall₂_congr fun c hc => joinsWord_eq_false_iff (h.not_isWordChar_behind c hc)
  rw [WordPlace.IsWhole, hbehind]
  refine and_congr_right fun _ => ?_
  cases hrule : place.rule with
  | denied => exact iff_of_true (.inl (h.not_joined_of_denied hrule)) fun h => nomatch h
  | non => exact (h.non_whole_iff hrule).trans (true_imp_iff.symm.trans (by simp))
  | plain => exact iff_of_true (.inl (h.not_joined_of_plain hrule)) fun h => nomatch h

end Takes

/-- A predicate in which a rule for words finds one is decided by one word. No character of words
stands behind that word, and it is a whole word exactly if no hyphen touches it from behind, or the
"non" before it from the front. -/
theorem takes_whole_word {predicate : Text} (h : ¬ Wordless (Text.trimmed predicate)) :
    ∃ place, Takes (Text.trimmed predicate) place ∧
      (∀ other, Takes (Text.trimmed predicate) other → other = place) ∧
      Suffix.ofPredicate? predicate = some place.suffix ∧
      (place.IsWhole ↔ (∀ c ∈ place.behind.head?, c ≠ '-') ∧
        (place.rule = .non → ∀ c ∈ place.before.getLast?, c ≠ '-')) := by
  obtain ⟨place, hplace, hreading⟩ := (exists_takes_or_wordless _).resolve_right h
  exact ⟨place, hplace, fun other hother => hother.unique hplace,
    ofPredicate?_eq_some_iff.2 hreading, hplace.isWhole_iff⟩

/-- The word of "non-negative count" and what stands around it. -/
def nonNegativeCount : WordPlace where
  rule := .non
  before := ""
  lead := "non-"
  word := "negative"
  meaning := (.lt, .number 0)
  behind := " count"

/-- Behind "non-" a whole word is taken. -/
theorem takes_whole_word_nonNegative :
    ¬ Wordless (Text.trimmed "non-negative count") ∧ nonNegativeCount.IsWhole ∧
      Suffix.ofPredicate? "non-negative count" = some (.compare .ge (.number 0)) := by
  have hword : ¬ Wordless (Text.trimmed "non-negative count") :=
    fun h => absurd h.no_non (by decide)
  have htakes : Takes (Text.trimmed "non-negative count") nonNegativeCount :=
    { parts := by decide
      lead_mem := by decide
      word_mem := by decide
      found := by decide
      leftmost := fun left right heq hne =>
        absurd (List.append_eq_nil_iff.1 heq.symm).2 hne
      first := by decide }
  obtain ⟨place, -, honly, hsuffix, hwhole⟩ := takes_whole_word hword
  obtain rfl := honly nonNegativeCount htakes
  exact ⟨hword, hwhole.2 (by decide), hsuffix⟩

/-- The word that begins "null-terminated" and what follows it. -/
def nullTerminated : WordPlace where
  rule := .plain
  before := ""
  lead := ""
  word := "null"
  meaning := (.eq, .null)
  behind := "-terminated"

/-- Of "null-terminated" a part is taken as a word, and the predicate says that the value is
null. -/
theorem takes_part_of_nullTerminated :
    Takes (Text.trimmed "null-terminated") nullTerminated ∧
      (Suffix.ofPredicate? "null-terminated").map Suffix.text = some "==null" ∧
      ¬ nullTerminated.IsWhole := by
  refine ⟨?_, by decide, fun hwhole => ?_⟩
  · exact {
      parts := by decide
      lead_mem := by decide
      word_mem := by decide
      found := by decide
      leftmost := fun left right heq hne =>
        absurd (List.append_eq_nil_iff.1 heq.symm).2 hne
      first := by decide }
  · have hhyphen := hwhole.1 '-' rfl
    exact absurd hhyphen (by decide)

end ProseGuard.Guard
