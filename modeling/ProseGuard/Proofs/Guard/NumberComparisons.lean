import ProseGuard.Proofs.Guard.Numerals
import ProseGuard.Proofs.Guard.Operators
import ProseGuard.Proofs.Guard.Readings
import ProseGuard.Proofs.Text.Words

/-!
# Comparisons with numbers

Main statement: `suffix_of_numbers`, by which the first number of a predicate that no word decides
is what a value is compared with. That a number can be in range and yet too long to be read is shown
by `unread_paddedFive`.
-/

namespace ProseGuard.Guard

open Text (firstMatch isAsciiDigit)

variable {relation : Relation}

/-! ## Texts without letters -/

/-- A text of digits is not decided by a word. -/
theorem wordless_of_digits {text : Text} (hdigits : ∀ c ∈ text, isAsciiDigit c) :
    Wordless text := by
  -- what a reader of words has read begins with a lead or a word, which are not written in digits
  have hstart : ∀ passed rest start tail : Text, text = passed ++ rest → rest = start ++ tail →
      ¬ ∃ c ∈ start, ¬ isAsciiDigit c = true := by
    rintro passed _ start tail rfl rfl ⟨c, hc, hletter⟩
    exact hletter (hdigits c (List.mem_append_right _ (List.mem_append_left _ hc)))
  constructor
  · refine Text.firstMatch_eq_none_of_forall fun passed rest meaning htext hread => ?_
    obtain ⟨lead, hlead, tail, hrest, -⟩ := exists_lead_of_negatedWord hread
    have hall : ∀ lead ∈ denials, ∃ c ∈ lead, ¬ isAsciiDigit c = true := by decide
    exact hstart passed rest lead tail htext hrest (hall lead hlead)
  · refine Text.firstMatch_eq_none_of_forall fun passed rest meaning htext hread => ?_
    obtain ⟨lead, hlead, tail, hrest, -⟩ := exists_lead_of_nonWord hread
    have hall : ∀ lead ∈ nonLeads, ∃ c ∈ lead, ¬ isAsciiDigit c = true := by decide
    exact hstart passed rest lead tail htext hrest (hall lead hlead)
  · refine Text.firstMatch_eq_none_of_forall fun passed rest meaning htext hread => ?_
    obtain ⟨word, tail, hword, hrest, -⟩ := exists_word_of_wordAt (plainWord_eq_some_iff.1 hread).2
    have hall : ∀ entry ∈ catalogue, ∃ c ∈ entry.1, ¬ isAsciiDigit c = true := by decide
    exact hstart passed rest word tail htext hrest (hall _ hword)

theorem verbalRelations_not_digits :
    ∀ entry ∈ verbalRelations, ∃ c ∈ entry.1, ¬ isAsciiDigit c = true := by
  decide

theorem not_isBlank_of_digit {c : Point} (h : isAsciiDigit c) : Text.isBlank c = false := by
  have hall : ∀ d ∈ ("0123456789" : Text), Text.isBlank d = false := by decide
  exact hall c (Text.mem_of_isAsciiDigit h)

/-! ## Comparisons with numbers -/

/-- A number is an integer of 32 bits that is not written too long to be read. -/
def Numeral.IsReadable (n : Numeral) : Prop :=
  n.digits.length ≤ maxDigits ∧ -2 ^ 31 ≤ n.value ∧ n.value ≤ 2 ^ 31 - 1

instance (n : Numeral) : Decidable n.IsReadable :=
  inferInstanceAs (Decidable (_ ∧ _))

/-- The first number of a text has its value if it can be read. -/
theorem Numeral.value?_eq (n : Numeral) :
    Literal.value? ⟨relation, n.negative, n.digits⟩ =
      if n.IsReadable then some n.value else none := by
  rfl

/-- Where no word decides, the first number does. -/
theorem suffix_of_isFirst {n : Numeral} {predicate : Text}
    (hwords : Wordless (Text.trimmed predicate))
    (hfirst : n.IsFirst (withOperators (Text.trimmed predicate))) :
    Suffix.ofPredicate? predicate =
      if n.IsReadable then
        some (.compare (relationBefore n.before.reverse) (.number n.value))
      else none := by
  rw [Suffix.ofPredicate?, reading, readingOf_of_wordless hwords, readingWithoutWords,
    hfirst.firstMatch_eq]
  dsimp only
  rw [Reading.ofLiteral, n.value?_eq]
  by_cases h : n.IsReadable
  · rw [if_pos h, if_pos h]
  · rw [if_neg h, if_neg h]

/-- Where there is no number either, one of two fixed phrases does. -/
theorem suffix_cases_of_no_number {predicate : Text} {suffix : Suffix}
    (hwords : Wordless (Text.trimmed predicate))
    (hnone : ∀ n : Numeral, ¬ n.StandsIn (withOperators (Text.trimmed predicate)))
    (h : Suffix.ofPredicate? predicate = some suffix) :
    suffix = .compare .ne .null ∨ ∃ type, suffix = .instanceOf type := by
  rw [Suffix.ofPredicate?, reading, readingOf_of_wordless hwords, readingWithoutWords,
    Numeral.firstMatch_literal_eq_none hnone] at h
  dsimp only at h
  split at h
  · next found hfound =>
      rw [← Option.some.inj h]
      split at hfound
      · exact .inl (Reading.suffix.inj hfound).symm
      · split at hfound
        · next type htype => exact .inr ⟨type, (Reading.suffix.inj hfound).symm⟩
        · cases hfound
  · cases h

/-- Where no word decides a predicate, the number that begins first does: its value is compared with
by the relation that the longest operator before it says, unless it is no integer of 32 bits or has
too many digits to be read. Where no number stands, none is compared with. -/
theorem suffix_of_numbers {predicate : Text} (hwords : Wordless (Text.trimmed predicate)) :
    (∀ (n : Numeral) (relation : Relation),
      n.IsFirst (withOperators (Text.trimmed predicate)) → SaysRelation n.before relation →
        (Suffix.ofPredicate? predicate).map Suffix.text =
          if n.IsReadable then some (relation.symbol ++ Text.ofString (toString n.value))
          else none) ∧
    ((∀ n : Numeral, ¬ n.StandsIn (withOperators (Text.trimmed predicate))) →
      ∀ (relation : Relation) (value : Int),
        (Suffix.ofPredicate? predicate).map Suffix.text ≠
          some (relation.symbol ++ Text.ofString (toString value))) := by
  refine ⟨fun n relation hfirst hrelation => ?_, fun hnone relation value hsuffix => ?_⟩
  · rw [suffix_of_isFirst hwords hfirst, hrelation.relationBefore_eq]
    split <;> rfl
  · obtain ⟨suffix, hsuffix, htext⟩ := Option.map_eq_some_iff.1 hsuffix
    have hnumber : suffix = .compare relation (.number value) := Suffix.text_injective htext
    rcases suffix_cases_of_no_number hwords hnone hsuffix with rfl | ⟨type, rfl⟩
    · exact nomatch hnumber
    · exact nomatch hnumber

/-- A bound in words, with leading zeros, before another number. -/
def wordedBound : Text :=
  "less than or equal to -007 or 9"

/-- The bound is read, and in a predicate without numbers no number is. -/
theorem suffix_of_wordedBound :
    (Wordless (Text.trimmed wordedBound) ∧
      Numeral.IsFirst ⟨"<= ", true, "007", " or 9"⟩ (withOperators (Text.trimmed wordedBound)) ∧
      SaysRelation "<= " .le ∧
      (Suffix.ofPredicate? wordedBound).map Suffix.text = some "<=-7") ∧
    Wordless (Text.trimmed "been set") ∧
      (∀ n : Numeral, ¬ n.StandsIn (withOperators (Text.trimmed "been set"))) ∧
      (Suffix.ofPredicate? "been set").map Suffix.text ≠ some "==0" := by
  have hbound : Wordless (Text.trimmed wordedBound) := by constructor <;> decide
  have hstands : Numeral.StandsIn ⟨"<= ", true, "007", " or 9"⟩
      (withOperators (Text.trimmed wordedBound)) := by
    constructor <;> decide
  have hfirst : Numeral.IsFirst ⟨"<= ", true, "007", " or 9"⟩
      (withOperators (Text.trimmed wordedBound)) := hstands.isFirst (by decide) (by decide)
  have hrelation : SaysRelation "<= " .le := by
    have hlongest : ∀ other ∈ operators, other.1.length ≤ 2 := by decide
    exact .operator "<=" .le (by decide) (.inr ⟨[], rfl⟩) fun other hother _ =>
      hlongest other hother
  have hset : Wordless (Text.trimmed "been set") := by constructor <;> decide
  have hnone : ∀ n : Numeral, ¬ n.StandsIn (withOperators (Text.trimmed "been set")) := by
    intro n hn
    obtain ⟨c, hc, hdigit⟩ := hn.exists_digit
    revert c
    decide
  refine ⟨⟨hbound, hfirst, hrelation, ?_⟩, hset, hnone, (suffix_of_numbers hset).2 hnone .eq 0⟩
  rw [(suffix_of_numbers hbound).1 _ _ hfirst hrelation, if_pos (by decide)]
  decide

/-- The number five behind more zeros than a number may be written with. -/
def paddedFive : Numeral where
  before := []
  negative := false
  digits := List.replicate maxDigits (.char '0') ++ ("5" : Text)
  behind := []

theorem all_digits_paddedFive : ∀ c ∈ paddedFive.digits, isAsciiDigit c := by
  intro c hc
  rw [paddedFive, List.mem_append] at hc
  rcases hc with hc | hc
  · rw [List.eq_of_mem_replicate hc]
    decide
  · rw [List.mem_singleton.1 hc]
    decide

theorem digitsValue_zeros_append (k : Nat) (digits : Text) :
    Text.digitsValue (List.replicate k (.char '0') ++ digits) = Text.digitsValue digits := by
  induction k with
  | zero => rfl
  | succ k ih => exact ih

theorem value_paddedFive : paddedFive.value = 5 := by
  have hdigits : Text.digitsValue paddedFive.digits = 5 := digitsValue_zeros_append maxDigits "5"
  exact congrArg Int.ofNat hdigits

/-- Though the number is five, it is not read. -/
theorem unread_paddedFive :
    Wordless (Text.trimmed paddedFive.digits) ∧
      paddedFive.IsFirst (withOperators (Text.trimmed paddedFive.digits)) ∧
      SaysRelation paddedFive.before .eq ∧ paddedFive.value = 5 ∧
      (Suffix.ofPredicate? paddedFive.digits).map Suffix.text = none := by
  have hdigits := all_digits_paddedFive
  have hlength : paddedFive.digits.length = maxDigits + 1 := by
    rw [paddedFive, List.length_append, List.length_replicate]
    rfl
  have hne : paddedFive.digits ≠ [] := List.append_ne_nil_of_right_ne_nil _ (by decide)
  have htrimmed : Text.trimmed paddedFive.digits = paddedFive.digits :=
    Text.trimWhere_eq_self (fun c hc => not_isBlank_of_digit (hdigits c (List.mem_of_mem_head? hc)))
      fun c hc => not_isBlank_of_digit (hdigits c (List.mem_of_getLast? hc))
  have hoperators : withOperators paddedFive.digits = paddedFive.digits := by
    refine withOperators_eq_self fun entry hentry hoccurs => ?_
    obtain ⟨c, hc, hletter⟩ := verbalRelations_not_digits entry hentry
    exact hletter (hdigits c (hoccurs.subset hc))
  have hwords : Wordless (Text.trimmed paddedFive.digits) := by
    rw [htrimmed]
    exact wordless_of_digits hdigits
  have hfirst : paddedFive.IsFirst (withOperators (Text.trimmed paddedFive.digits)) := by
    rw [htrimmed, hoperators]
    refine ⟨⟨?_, hne, hdigits, ?_, ?_⟩, fun other _ => Nat.zero_le _⟩
    · exact (List.append_nil _).symm
    · exact fun c hc => nomatch hc
    · exact fun c hc => nomatch hc
  have hnone : SaysRelation paddedFive.before .eq := by
    have hne : ∀ other ∈ operators, other.1 ≠ [] := by decide
    refine .none fun other hother h => ?_
    rcases h with h | h
    · exact hne other hother (List.suffix_nil.1 h)
    · exact hne other hother (List.append_eq_nil_iff.1 (List.suffix_nil.1 h)).1
  refine ⟨hwords, hfirst, hnone, value_paddedFive, ?_⟩
  have hlong : ¬ paddedFive.IsReadable := by
    intro h
    have hle := h.1
    omega
  rw [suffix_of_isFirst hwords hfirst, if_neg hlong]
  rfl

end ProseGuard.Guard
