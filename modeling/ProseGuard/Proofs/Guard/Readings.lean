import ProseGuard.Guard.Suffix
import ProseGuard.Proofs.Text.Number

/-!
# Readings of predicates

What the readers of words have read where they succeed: a lead, if there is one, and behind it a
word of a catalogue that ends there (`exists_word_of_wordAt`, `exists_lead_of_negatedWord`,
`exists_lead_of_nonWord`, `plainWord_eq_some_iff`). Where all three fail, numbers and fixed phrases
decide (`readingOf_of_wordless`). What is read can be told from its text (`Suffix.text_injective`).
-/

namespace ProseGuard.Guard

open Text (firstMatch isWordChar)

/-! ## Words -/

variable {before text : Text} {meaning : Relation × Operand}

/-- A text of which a comparison is read starts with a word for it, and the word ends there. -/
theorem exists_word_of_wordAt {words : List (Text × Relation × Operand)}
    (h : wordAt words text = some meaning) :
    ∃ word behind, (word, meaning) ∈ words ∧ text = word ++ behind ∧
      ∀ c ∈ behind.head?, isWordChar c = false := by
  obtain ⟨⟨word, other⟩, hmem, hread⟩ := List.exists_of_findSome?_eq_some h
  dsimp only at hread
  split at hread
  · next behind hafter =>
      split at hread
      · exact nomatch hread
      · next hend =>
          rw [← Option.some.inj hread]
          refine ⟨word, behind, hmem, Text.after?_eq_some_iff.1 hafter, fun c hc => ?_⟩
          rw [Option.mem_def.1 hc] at hend
          exact Bool.eq_false_iff.2 hend
  · exact nomatch hread

/-- What denies a word that it stands right before. -/
def denials : List Text := ["not ", "!= ", "!="]

/-- How "non" is joined to a word. -/
def nonLeads : List Text := ["non-", "non"]

/-- A denied word stands behind "not" or an unequal sign. -/
theorem exists_lead_of_negatedWord (h : negatedWord before text = some meaning) :
    ∃ lead ∈ denials, ∃ rest, text = lead ++ rest ∧ wordAt catalogue rest = some meaning := by
  unfold negatedWord at h
  split at h
  · next rest hrest => exact ⟨"not ", by decide, rest, Text.after?_eq_some_iff.1 hrest, h⟩
  · split at h
    · next rest hrest => exact ⟨"!= ", by decide, rest, Text.after?_eq_some_iff.1 hrest, h⟩
    · obtain ⟨rest, hrest, h⟩ := Option.bind_eq_some_iff.1 h
      exact ⟨"!=", by decide, rest, Text.after?_eq_some_iff.1 hrest, h⟩

/-- So does a word behind "non". -/
theorem exists_lead_of_nonWord (h : nonWord before text = some meaning) :
    ∃ lead ∈ nonLeads, ∃ rest, text = lead ++ rest ∧ wordAt nonCatalogue rest = some meaning := by
  unfold nonWord at h
  split at h
  · exact nomatch h
  · split at h
    · next rest hrest => exact ⟨"non-", by decide, rest, Text.after?_eq_some_iff.1 hrest, h⟩
    · obtain ⟨rest, hrest, h⟩ := Option.bind_eq_some_iff.1 h
      exact ⟨"non", by decide, rest, Text.after?_eq_some_iff.1 hrest, h⟩

/-- A plain word stands behind neither a word character nor a hyphen. -/
theorem plainWord_eq_some_iff :
    plainWord before text = some meaning ↔
      (∀ c ∈ before.head?, isWordChar c = false ∧ c ≠ '-') ∧
        wordAt catalogue text = some meaning := by
  unfold plainWord
  cases before with
  | nil => simp
  | cons c cs => by_cases hc : isWordChar c <;> by_cases hhyphen : c = '-' <;> simp [hc, hhyphen]

/-- No word decides a text. -/
structure Wordless (text : Text) : Prop where
  no_negated : firstMatch negatedWord [] text = none
  no_non : firstMatch nonWord [] text = none
  no_plain : firstMatch plainWord [] text = none

/-- Where no word decides, numbers and fixed phrases do. -/
theorem readingOf_of_wordless (h : Wordless text) : readingOf text = readingWithoutWords text := by
  rw [readingOf, h.no_negated, h.no_non, h.no_plain]

/-- The suffix of a predicate is what it reads as, blanks around it left out. -/
theorem ofPredicate?_eq_some_iff {predicate : Text} {suffix : Suffix} :
    Suffix.ofPredicate? predicate = some suffix ↔
      readingOf (Text.trimmed predicate) = .suffix suffix := by
  rw [Suffix.ofPredicate?, reading]
  cases readingOf (Text.trimmed predicate) <;> simp

/-! ## Texts -/

/-- A written number is not a word. -/
theorem Operand.text_number_ne (value : Int) {word : Operand}
    (hword : word = .true ∨ word = .false ∨ word = .null) :
    (Operand.number value).text ≠ word.text := by
  have hletter : ∀ letter : Char, ¬ letter.isDigit → letter ≠ '-' →
      ∀ rest : Text, (Operand.number value).text ≠ .char letter :: rest := by
    intro letter hdigit hminus rest h
    have hmem : .char letter ∈ (Operand.number value).text := h ▸ List.mem_cons_self
    exact Text.not_mem_toString value hdigit hminus hmem
  rcases hword with rfl | rfl | rfl
  · exact hletter 't' (by decide) (by decide) "rue"
  · exact hletter 'f' (by decide) (by decide) "alse"
  · exact hletter 'n' (by decide) (by decide) "ull"

/-- Operands are told apart by their texts. -/
theorem Operand.text_injective {x y : Operand} (h : x.text = y.text) : x = y := by
  cases x with
  | number value =>
      cases y with
      | number other => exact congrArg Operand.number (Text.toString_injective h)
      | true | false | null => exact absurd h (text_number_ne value (by decide))
  | true | false | null =>
      cases y with
      | number other => exact absurd h.symm (text_number_ne other (by decide))
      | true | false | null =>
          revert h
          decide

/-- Operators are told apart where no equal sign follows. -/
theorem Relation.symbol_append_inj {r s : Relation} {a b : Text} (ha : a.head? ≠ some (.char '='))
    (hb : b.head? ≠ some (.char '=')) (h : r.symbol ++ a = s.symbol ++ b) : r = s ∧ a = b := by
  cases r <;> cases s <;> simp_all [Relation.symbol, Text.ofString]
  · exact hb (h ▸ rfl)
  · exact hb (h ▸ rfl)

/-- Suffixes are told apart by their texts. -/
theorem Suffix.text_injective {s t : Suffix} (h : s.text = t.text) : s = t := by
  have hequal : ∀ operand : Operand, operand.text.head? ≠ some (.char '=') := by
    intro operand hhead
    cases operand with
    | number value =>
        exact Text.not_mem_toString value (by decide) (by decide) (List.mem_of_head? hhead)
    | true | false | null => exact absurd hhead (by decide)
  have hspace : ∀ (relation : Relation) (rest type : Text),
      relation.symbol ++ rest ≠ " instanceof " ++ type := by
    intro relation rest type h
    cases relation <;> exact nomatch h
  cases s with
  | compare relation operand =>
      cases t with
      | compare other value =>
          obtain ⟨rfl, hoperand⟩ :=
            Relation.symbol_append_inj (hequal operand) (hequal value) h
          rw [Operand.text_injective hoperand]
      | instanceOf type => exact absurd h (hspace relation operand.text type)
  | instanceOf type =>
      cases t with
      | compare other value => exact absurd h.symm (hspace other value.text type)
      | instanceOf other => rw [List.append_cancel_left h]

end ProseGuard.Guard
