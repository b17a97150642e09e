import ProseGuard.Proofs.Guard.Numerals
import ProseGuard.Proofs.Guard.Operators
import ProseGuard.Proofs.Guard.Readings
import ProseGuard.Proofs.Text.Words

/-!
# Denied predicates

What "not" does in front of a predicate. It is read before a word of the catalogue that the
predicate begins with, and it ends the fixed phrase "been set"; every other predicate reads as it
would without it (`readingOf_not`). Main statement: `suffix_not`, by which a denial is dropped
exactly from predicates that do not begin so. That it can be is shown by `suffix_not_unread`.
-/

namespace ProseGuard.Guard

open Text (firstMatch)

variable {text : Text}

/-! ## Readers -/

/-- A reader to which "not" and a space before a text make no difference: it reads nothing that
begins there, and elsewhere what it reads without them. -/
structure IgnoresNot {α : Type} (read : Text → Text → Option α) (text : Text) : Prop where
  fails : read [] ("not " ++ text) = none ∧ read ("n" : Text).reverse ("ot " ++ text) = none ∧
    read ("no" : Text).reverse ("t " ++ text) = none ∧
    read ("not" : Text).reverse (" " ++ text) = none
  same : ∀ passed rest : Text,
    read (passed.reverse ++ ("not " : Text).reverse) rest = read passed.reverse rest

/-- A search with such a reader finds the same. -/
theorem IgnoresNot.firstMatch_eq {α : Type} {read : Text → Text → Option α}
    (h : IgnoresNot read text) :
    firstMatch read [] ("not " ++ text) = firstMatch read [] text := by
  obtain ⟨hfirst, hsecond, hthird, hfourth⟩ := h.fails
  have hpassed : firstMatch read [] ("not " ++ text) =
      firstMatch read ("not " : Text).reverse text := by
    calc firstMatch read [] ("not " ++ text)
      _ = firstMatch read ("n" : Text).reverse ("ot " ++ text) :=
        Text.firstMatch_cons_of_none hfirst
      _ = firstMatch read ("no" : Text).reverse ("t " ++ text) :=
        Text.firstMatch_cons_of_none hsecond
      _ = firstMatch read ("not" : Text).reverse (" " ++ text) :=
        Text.firstMatch_cons_of_none hthird
      _ = firstMatch read ("not " : Text).reverse text :=
        Text.firstMatch_cons_of_none hfourth
  rw [hpassed]
  refine Text.firstMatch_congr fun passed rest _ => ?_
  rw [List.append_nil]
  exact h.same passed rest

/-- A denial is read only before a word. -/
theorem ignoresNot_negatedWord (h : wordAt catalogue text = none) :
    IgnoresNot negatedWord text where
  fails := ⟨h, rfl, rfl, rfl⟩
  same _ _ := rfl

theorem ignoresNot_nonWord (text : Text) : IgnoresNot nonWord text where
  fails := ⟨rfl, rfl, rfl, rfl⟩
  same passed rest := by
    unfold nonWord
    cases passed using List.reverseRecOn with
    | nil => rfl
    | append_singleton passed c => simp

theorem ignoresNot_plainWord (text : Text) : IgnoresNot plainWord text where
  fails := ⟨rfl, rfl, rfl, rfl⟩
  same passed rest := by
    unfold plainWord
    cases passed using List.reverseRecOn with
    | nil => rfl
    | append_singleton passed c => simp

theorem ignoresNot_literal (text : Text) : IgnoresNot literal text where
  fails := ⟨rfl, rfl, rfl, rfl⟩
  same passed rest := by
    have hrelation : relationBefore (passed.reverse ++ ("not " : Text).reverse) =
        relationBefore passed.reverse := by
      cases passed using List.reverseRecOn with
      | nil => rfl
      | append_singleton passed c =>
          have hunspaced : unspaced ((passed ++ [c]).reverse ++ ("not " : Text).reverse) =
              unspaced (passed ++ [c]).reverse ++ .char ' ' :: ("not" : Text).reverse := by
            by_cases hc : c = .char ' ' <;> simp [unspaced, hc, Text.ofString]
          exact relationBefore_eq_of_unspaced hunspaced
    unfold literal
    rw [hrelation]
    cases passed using List.reverseRecOn with
    | nil => rfl
    | append_singleton passed c => simp

theorem ignoresNot_instanceType (text : Text) : IgnoresNot instanceType text where
  fails := ⟨rfl, rfl, rfl, rfl⟩
  same _ _ := rfl

/-! ## Readings -/

/-- Without words, "not" makes a difference to the fixed phrase alone. -/
theorem readingWithoutWords_not (h : text ≠ "been set") :
    readingWithoutWords ("not " ++ text) = readingWithoutWords text := by
  have hnot : ("not " ++ text : Text) ≠ "been set" := fun h => nomatch h
  rw [readingWithoutWords, readingWithoutWords, withOperators_append (by decide),
    (ignoresNot_literal _).firstMatch_eq, (ignoresNot_instanceType _).firstMatch_eq, if_neg h,
    if_neg hnot]

/-- Behind "not" a word that begins the text is denied, the fixed phrase says nothing, and all else
reads as it would alone. -/
theorem readingOf_not (text : Text) :
    readingOf ("not " ++ text) =
      match wordAt catalogue text with
      | some meaning => .denied meaning
      | none => if text = "been set" then .other else readingOf text := by
  cases hword : wordAt catalogue text with
  | some meaning =>
      refine reading_of_negatedWord (Text.firstMatch_eq_some_iff.2
        ⟨[], "not " ++ text, rfl, hword, fun left right heq hne => ?_⟩)
      exact absurd (List.append_eq_nil_iff.1 heq.symm).2 hne
  | none =>
      dsimp only
      split
      · next hset =>
          rw [hset]
          decide
      · next hset =>
          rw [readingOf, readingOf, (ignoresNot_negatedWord hword).firstMatch_eq,
            (ignoresNot_nonWord _).firstMatch_eq, (ignoresNot_plainWord _).firstMatch_eq,
            readingWithoutWords_not hset]

/-! ## Suffixes -/

/-- Blanks behind a predicate do not matter to "not" in front of it. -/
theorem trimmed_not {predicate : Text} (hstart : ∀ c ∈ predicate.head?, Text.isBlank c = false)
    (hne : Text.trimmed predicate ≠ []) :
    Text.trimmed ("not " ++ predicate) = "not " ++ Text.trimmed predicate := by
  obtain ⟨left, right, hparts, hleft, hright⟩ := Text.exists_margins Text.isBlank predicate
  obtain rfl : left = [] := by
    cases left with
    | nil => rfl
    | cons c cs =>
        have hblank := hleft c List.mem_cons_self
        rw [hstart c (by rw [hparts]; rfl)] at hblank
        exact nomatch hblank
  have hlast : ∀ c ∈ ("not " ++ Text.trimmed predicate : Text).getLast?,
      Text.isBlank c = false := by
    rw [List.getLast?_append_of_ne_nil _ hne]
    exact Text.not_marks_of_mem_getLast?
  have hfirst : ∀ c ∈ ("not " ++ Text.trimmed predicate : Text).head?, Text.isBlank c = false := by
    rintro c ⟨⟩
    decide
  have hdenied : ("not " ++ predicate : Text) =
      [] ++ (("not " ++ Text.trimmed predicate : Text) ++ right) := by
    rw [List.nil_append, List.append_assoc]
    exact congrArg (("not " : Text) ++ ·) hparts
  calc Text.trimmed ("not " ++ predicate)
    _ = Text.trimmed ([] ++ (("not " ++ Text.trimmed predicate : Text) ++ right)) := by
      rw [← hdenied]
    _ = "not " ++ Text.trimmed predicate := by
      rw [Text.trimmed, Text.trimWhere_around (List.append_ne_nil_of_right_ne_nil _ hne) hfirst
        hlast [] right, List.rdropWhile_eq_nil_iff.2 hright, List.append_nil]
      rfl

/-- What is read of a predicate behind "not", and when it differs from what is read without: if the
predicate is the fixed phrase "been set" or begins with a word of the catalogue, unless it is read
as denying that word already. -/
theorem suffix_not {predicate : Text} {suffix : Suffix}
    (hstart : ∀ c ∈ predicate.head?, Text.isBlank c = false)
    (hsuffix : Suffix.ofPredicate? predicate = some suffix) :
    (Suffix.ofPredicate? ("not " ++ predicate) =
      match wordAt catalogue (Text.trimmed predicate) with
      | some meaning => some (.compare meaning.1.negation meaning.2)
      | none => if Text.trimmed predicate = "been set" then none else some suffix) ∧
    ((Suffix.ofPredicate? ("not " ++ predicate)).map Suffix.text ≠ some suffix.text ↔
      Text.trimmed predicate = "been set" ∨
        ∃ meaning, wordAt catalogue (Text.trimmed predicate) = some meaning ∧
          suffix ≠ .compare meaning.1.negation meaning.2) := by
  have hreading := ofPredicate?_eq_some_iff.1 hsuffix
  have hne : Text.trimmed predicate ≠ [] := by
    intro h
    have hempty : readingOf [] = .other := by decide
    rw [h, hempty] at hreading
    cases hreading
  have hnot : Suffix.ofPredicate? ("not " ++ predicate) =
      match wordAt catalogue (Text.trimmed predicate) with
      | some meaning => some (.compare meaning.1.negation meaning.2)
      | none => if Text.trimmed predicate = "been set" then none else some suffix := by
    rw [Suffix.ofPredicate?, reading, trimmed_not hstart hne, readingOf_not]
    cases wordAt catalogue (Text.trimmed predicate) with
    | some meaning => rfl
    | none =>
        by_cases hset : Text.trimmed predicate = "been set"
        · simp only [hset, if_true]
        · simp only [hset, if_false, hreading]
  refine ⟨hnot, ?_⟩
  rw [hnot]
  cases hword : wordAt catalogue (Text.trimmed predicate) with
  | some meaning =>
      have hset : Text.trimmed predicate ≠ "been set" := by
        have hnone : wordAt catalogue "been set" = none := by decide
        intro h
        rw [h, hnone] at hword
        cases hword
      have hdiffers : suffix.text ≠ (Suffix.compare meaning.1.negation meaning.2).text ↔
          suffix ≠ .compare meaning.1.negation meaning.2 :=
        ⟨mt (congrArg Suffix.text), mt Suffix.text_injective⟩
      simpa [hset] using (ne_comm.trans hdiffers)
  | none =>
      by_cases hset : Text.trimmed predicate = "been set"
      · simp [hset]
      · simp [hset]

/-- A word is denied, and a type is not. -/
theorem suffix_not_positive :
    ((∀ c ∈ ("positive " : Text).head?, Text.isBlank c = false) ∧
      Suffix.ofPredicate? "positive " = some (.compare .gt (.number 0)) ∧
      Suffix.ofPredicate? "not positive " = some (.compare .le (.number 0))) ∧
    (∀ c ∈ ("instanceof List" : Text).head?, Text.isBlank c = false) ∧
      Suffix.ofPredicate? "instanceof List" = some (.instanceOf "List") ∧
      Suffix.ofPredicate? "not instanceof List" = some (.instanceOf "List") := by
  have hword : ∀ c ∈ ("positive " : Text).head?, Text.isBlank c = false := by decide
  have hpositive : Suffix.ofPredicate? "positive " = some (.compare .gt (.number 0)) := by
    decide
  have htype : ∀ c ∈ ("instanceof List" : Text).head?, Text.isBlank c = false := by decide
  have hlist : Suffix.ofPredicate? "instanceof List" = some (.instanceOf "List") := by
    decide
  exact ⟨⟨hword, hpositive, (suffix_not hword hpositive).1.trans (by decide)⟩, htype, hlist,
    (suffix_not htype hlist).1.trans (by decide)⟩

/-- A denial is dropped from comparisons with numbers, whether with signs or in words, from what
copulas lead to and from types. -/
theorem suffix_not_unread :
    (Text.trimmed "> 5" = "> 5" ∧ ¬ ("not " : Text) <+: "> 5" ∧
      (Suffix.ofPredicate? "> 5").map Suffix.text = some ">5" ∧
      (Suffix.ofPredicate? "not > 5").map Suffix.text = some ">5") ∧
    (Text.trimmed "greater than 5" = "greater than 5" ∧ ¬ ("not " : Text) <+: "greater than 5" ∧
      (Suffix.ofPredicate? "greater than 5").map Suffix.text = some ">5" ∧
      (Suffix.ofPredicate? "not greater than 5").map Suffix.text = some ">5") ∧
    (Text.trimmed "is null" = "is null" ∧ ¬ ("not " : Text) <+: "is null" ∧
      (Suffix.ofPredicate? "is null").map Suffix.text = some "==null" ∧
      (Suffix.ofPredicate? "not is null").map Suffix.text = some "==null") ∧
    Text.trimmed "instanceof List" = "instanceof List" ∧ ¬ ("not " : Text) <+: "instanceof List" ∧
      (Suffix.ofPredicate? "instanceof List").map Suffix.text = some " instanceof List" ∧
      (Suffix.ofPredicate? "not instanceof List").map Suffix.text = some " instanceof List" := by
  decide

end ProseGuard.Guard
