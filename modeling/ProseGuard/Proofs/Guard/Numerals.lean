import Mathlib.Data.List.Basic
import Mathlib.Data.List.TakeWhile
import ProseGuard.Guard.Suffix
import ProseGuard.Proofs.Text.Integer
import ProseGuard.Proofs.Text.Search

/-!
# Numerals

Numbers where they stand in a text, and the relation that an operator before one says. Main
statements: `IsFirst.firstMatch_eq`, by which a search finds the number that begins first,
`firstMatch_literal_eq_none`, and `SaysRelation.relationBefore_eq`, by which the longest operator
before it says the relation.
-/

namespace ProseGuard.Guard

open Text (firstMatch isAsciiDigit)

/-- A number where it stands in a text: what is before it, its sign and digits, and what is
behind it. -/
structure Numeral where
  before : Text
  negative : Bool
  digits : Text
  behind : Text

namespace Numeral

/-- The number as it is written. -/
def written (n : Numeral) : Text :=
  (if n.negative then "-" else "") ++ n.digits

/-- The number itself. -/
def value (n : Numeral) : Int :=
  if n.negative then -(Text.digitsValue n.digits : Int) else Text.digitsValue n.digits

/-- The number stands in a text, and nothing glues it to what is before or behind it. -/
structure StandsIn (n : Numeral) (text : Text) : Prop where
  text_eq : text = n.before ++ (n.written ++ n.behind)
  digits_ne : n.digits ≠ []
  all_digits : ∀ c ∈ n.digits, isAsciiDigit c
  apart_before : ∀ c ∈ n.before.getLast?, gluesNumber c = false
  apart_behind : ∀ c ∈ n.behind.head?, gluesNumber c = false

/-- The number stands in a text, and no other begins before it. -/
structure IsFirst (n : Numeral) (text : Text) : Prop extends n.StandsIn text where
  first : ∀ other : Numeral, other.StandsIn text → n.before.length ≤ other.before.length

variable {n : Numeral} {text : Text}

/-- A digit glues another number to it. -/
theorem gluesNumber_of_digit {c : Point} (h : isAsciiDigit c) : gluesNumber c = true := by
  have hall : ∀ d ∈ ("0123456789" : Text), gluesNumber d = true := by decide
  exact hall c (Text.mem_of_isAsciiDigit h)

/-- The digits of a number are all that stand there. -/
theorem StandsIn.takeWhile_digits (h : n.StandsIn text) :
    (n.digits ++ n.behind).takeWhile isAsciiDigit = n.digits := by
  have hbehind : n.behind.takeWhile isAsciiDigit = [] := by
    cases hcs : n.behind with
    | nil => rfl
    | cons c cs =>
        have hglue := h.apart_behind c (hcs ▸ rfl)
        refine List.takeWhile_cons_of_neg fun hdigit => ?_
        rw [gluesNumber_of_digit hdigit] at hglue
        exact nomatch hglue
  rw [List.takeWhile_append_of_pos h.all_digits, hbehind, List.append_nil]

/-- A number is read of its digits, which begin behind its sign. -/
theorem literal_eq_of_unsigned {before rest unsigned : Text} {negative : Bool}
    (hsign : rest.head? = some (.char '-') ↔ negative = true)
    (hunsigned : (if negative then rest.tail else rest) = unsigned) :
    literal before rest =
      if before.head?.any gluesNumber then none
      else if (unsigned.takeWhile isAsciiDigit).isEmpty ||
          (unsigned.drop (unsigned.takeWhile isAsciiDigit).length).head?.any gluesNumber then none
      else some ⟨relationBefore before, negative, unsigned.takeWhile isAsciiDigit⟩ := by
  subst hunsigned
  unfold literal
  simp only [hsign, Bool.decide_eq_true]

/-- A text holds the digits of the numbers that stand in it. -/
theorem StandsIn.exists_digit (h : n.StandsIn text) : ∃ c ∈ text, isAsciiDigit c = true := by
  obtain ⟨c, cs, hcs⟩ := List.exists_cons_of_ne_nil h.digits_ne
  have hc : c ∈ n.digits := hcs ▸ List.mem_cons_self
  refine ⟨c, ?_, h.all_digits c hc⟩
  rw [h.text_eq, written]
  exact List.mem_append_right _ (List.mem_append_left _ (List.mem_append_right _ hc))

/-- A number that stands in a text is read there. -/
theorem StandsIn.literal_eq (h : n.StandsIn text) :
    literal n.before.reverse (n.written ++ n.behind) =
      some ⟨relationBefore n.before.reverse, n.negative, n.digits⟩ := by
  have hbefore : n.before.reverse.head?.any gluesNumber = false := by
    rw [List.head?_reverse, Option.any_eq_false]
    exact h.apart_before
  have hbehind : n.behind.head?.any gluesNumber = false :=
    (Option.any_eq_false _ _).2 h.apart_behind
  obtain ⟨c, cs, hcs⟩ := List.exists_cons_of_ne_nil h.digits_ne
  have hminus := (Text.digit_spec (h.all_digits c (hcs ▸ List.mem_cons_self))).2.2.1
  have hsign : (n.written ++ n.behind).head? = some (.char '-') ↔ n.negative = true := by
    cases hnegative : n.negative with
    | false => simpa [written, hnegative, hcs] using hminus
    | true => simp [written, hnegative, Text.ofString]
  have hunsigned : (if n.negative then (n.written ++ n.behind).tail else n.written ++ n.behind) =
      n.digits ++ n.behind := by
    cases hnegative : n.negative <;> simp [written, hnegative, Text.ofString]
  rw [literal_eq_of_unsigned hsign hunsigned, h.takeWhile_digits, List.drop_left, hbefore, hbehind,
    List.isEmpty_eq_false_iff.2 h.digits_ne]
  rfl

/-- What is read as a number at a place of a text stands there. -/
theorem exists_standsIn {before rest : Text} {l : Literal}
    (h : literal before.reverse rest = some l) :
    ∃ n : Numeral, n.StandsIn (before ++ rest) ∧ n.before = before := by
  obtain ⟨negative, hsign⟩ : ∃ negative : Bool,
      rest.head? = some (.char '-') ↔ negative = true :=
    ⟨decide (rest.head? = some (.char '-')), by rw [decide_eq_true_eq]⟩
  obtain ⟨unsigned, hunsigned⟩ :
      ∃ unsigned, (if negative then rest.tail else rest) = unsigned := ⟨_, rfl⟩
  rw [literal_eq_of_unsigned hsign hunsigned] at h
  split at h
  · exact nomatch h
  · next hbefore =>
      split at h
      · exact nomatch h
      · next hdigits =>
          rw [Bool.or_eq_true, not_or, Bool.not_eq_true, Bool.not_eq_true] at hdigits
          have hrest : (if negative then "-" else "") ++ unsigned = rest := by
            cases negative with
            | false => simpa using hunsigned.symm
            | true =>
                rw [← hunsigned]
                exact List.cons_head?_tail (hsign.2 rfl)
          have hparts : unsigned.takeWhile isAsciiDigit ++
              unsigned.drop (unsigned.takeWhile isAsciiDigit).length = unsigned :=
            List.prefix_iff_eq_append.1 (List.takeWhile_prefix isAsciiDigit)
          refine ⟨⟨before, negative, unsigned.takeWhile isAsciiDigit,
            unsigned.drop (unsigned.takeWhile isAsciiDigit).length⟩, ?_, rfl⟩
          constructor
          · rw [written, List.append_assoc, hparts, hrest]
          · exact List.isEmpty_eq_false_iff.1 hdigits.1
          · intro c hc
            exact List.mem_takeWhile_imp hc
          · rw [List.head?_reverse, Bool.not_eq_true] at hbefore
            exact (Option.any_eq_false _ _).1 hbefore
          · exact (Option.any_eq_false _ _).1 hdigits.2

/-- A number is written with digits and a sign. -/
theorem eq_or_mem_of_mem_written {c : Point} (hc : c ∈ n.written) : c = '-' ∨ c ∈ n.digits := by
  rw [written, List.mem_append] at hc
  refine hc.imp_left fun hc => ?_
  split at hc
  · exact List.mem_singleton.1 hc
  · exact absurd hc List.not_mem_nil

/-- A number behind a text without digits that does not end with a sign is the first one. -/
theorem StandsIn.isFirst (h : n.StandsIn text) (hdigit : ∀ c ∈ n.before, ¬ isAsciiDigit c)
    (hsign : ∀ c ∈ n.before.getLast?, c ≠ '-') : n.IsFirst text := by
  refine ⟨h, fun other hother => ?_⟩
  have htexts : other.before ++ (other.written ++ other.behind) =
      n.before ++ (n.written ++ n.behind) := hother.text_eq.symm.trans h.text_eq
  rcases List.append_eq_append_iff.1 htexts with ⟨gap, hbefore, hgap⟩ | ⟨gap, hbefore, -⟩
  · -- what is between the two begins with the other number, or is the start of it
    rcases List.prefix_or_prefix_of_prefix (List.prefix_append other.written other.behind)
      (hgap ▸ List.prefix_append gap _) with hwritten | hwritten
    · obtain ⟨c, cs, hcs⟩ := List.exists_cons_of_ne_nil hother.digits_ne
      have hc : c ∈ other.digits := hcs ▸ List.mem_cons_self
      have hmem : c ∈ n.before := by
        rw [hbefore]
        exact List.mem_append_right _ (hwritten.subset (List.mem_append_right _ hc))
      exact absurd (hother.all_digits c hc) (hdigit c hmem)
    · obtain rfl | ⟨cs, c, rfl⟩ := List.eq_nil_or_concat gap
      · rw [hbefore, List.append_nil]
      · have hlast : c ∈ n.before.getLast? := by simp [hbefore]
        have hmem : c ∈ cs.concat c := by simp
        rcases eq_or_mem_of_mem_written (hwritten.subset hmem) with hc | hc
        · exact absurd hc (hsign c hlast)
        · exact absurd (hother.all_digits c hc) (hdigit c (List.mem_of_getLast? hlast))
  · rw [hbefore, List.length_append]
    exact Nat.le_add_right _ _

/-- The first number of a text is what a search for one finds. -/
theorem IsFirst.firstMatch_eq (h : n.IsFirst text) :
    firstMatch literal [] text =
      some ⟨relationBefore n.before.reverse, n.negative, n.digits⟩ := by
  refine Text.firstMatch_eq_some_iff.2 ⟨n.before, n.written ++ n.behind, h.text_eq, ?_, ?_⟩
  · rw [List.append_nil]
    exact h.literal_eq
  · intro left right hbefore hright
    rw [List.append_nil]
    cases hread : literal left.reverse (right ++ (n.written ++ n.behind)) with
    | none => rfl
    | some l =>
        obtain ⟨other, hother, hplace⟩ := exists_standsIn hread
        rw [← List.append_assoc, ← hbefore, ← h.text_eq] at hother
        have hle := h.first other hother
        rw [hbefore, hplace, List.length_append] at hle
        have hpos := List.length_pos_iff.2 hright
        omega

/-- Where no number stands, a search finds none. -/
theorem firstMatch_literal_eq_none (h : ∀ n : Numeral, ¬ n.StandsIn text) :
    firstMatch literal [] text = none := by
  refine Text.firstMatch_eq_none_of_forall fun passed rest l htext hread => ?_
  rw [List.append_nil] at hread
  obtain ⟨n, hn, -⟩ := exists_standsIn hread
  exact h n (htext ▸ hn)

end Numeral

/-! ## The relation -/

/-- The operators that may stand before a number, the equal sign alone among them. -/
def operators : List (Text × Relation) := [
  ("<=", .le), (">=", .ge), ("<", .lt), (">", .gt), ("!=", .ne), ("==", .eq), ("=", .eq)]

/-- The operator stands at the end of a text, or right before one space there. -/
def Ends (operator before : Text) : Prop :=
  operator <:+ before ∨ (operator ++ " " : Text) <:+ before

/-- The relation that the longest operator at the end of a text says; where there is none, that a
value is equal. -/
inductive SaysRelation (before : Text) : Relation → Prop where
  | operator (operator : Text) (relation : Relation) :
      (operator, relation) ∈ operators → Ends operator before →
      (∀ other ∈ operators, Ends other.1 before → other.1.length ≤ operator.length) →
      SaysRelation before relation
  | none : (∀ other ∈ operators, ¬ Ends other.1 before) → SaysRelation before .eq

variable {before : Text} {relation : Relation}

/-- A text that is given last character first, without a space at its end. -/
def unspaced (before : Text) : Text :=
  if before.head? = some (.char ' ') then before.tail else before

/-- What stands to the left of a space changes no relation. -/
theorem relationBefore_eq_of_unspaced {other rest : Text}
    (h : unspaced other = unspaced before ++ .char ' ' :: rest) :
    relationBefore other = relationBefore before := by
  unfold relationBefore
  unfold unspaced at h
  rw [h]
  -- an operator has at most two characters, and none of them is a space
  rcases (if before.head? = some (.char ' ') then before.tail else before) with
    _ | ⟨c, _ | ⟨d, tail⟩⟩
  · rfl
  · simp only [List.cons_append, List.nil_append]
    split <;> simp_all
  · simp only [List.cons_append]
    split <;> split <;> simp_all

/-- No operator ends with a space. -/
theorem operators_end : ∀ entry ∈ operators, ∃ c cs, entry.1.reverse = c :: cs ∧ c ≠ ' ' := by
  intro entry hentry
  have hall : ∀ entry ∈ operators,
      entry.1.reverse ≠ [] ∧ entry.1.reverse.head? ≠ some (.char ' ') := by decide
  obtain ⟨hne, hhead⟩ := hall entry hentry
  obtain ⟨c, cs, hcs⟩ := List.exists_cons_of_ne_nil hne
  exact ⟨c, cs, hcs, fun h => hhead (by rw [hcs, h]; rfl)⟩

/-- An operator stands at the end of a text exactly if the text without a space there ends so. -/
theorem ends_iff {operator : Text} (hmem : (operator, relation) ∈ operators) :
    Ends operator before ↔ operator.reverse <+: unspaced before.reverse := by
  obtain ⟨c, cs, hcs, hc⟩ := operators_end _ hmem
  dsimp only at hcs
  have hspaced : (operator ++ " " : Text).reverse = .char ' ' :: c :: cs := by
    rw [List.reverse_append, hcs]
    rfl
  rw [Ends, ← List.reverse_prefix, ← List.reverse_prefix, hspaced, hcs, unspaced]
  cases before.reverse with
  | nil => simp
  | cons d ds =>
      by_cases hd : d = .char ' '
      · simp [hd, List.cons_prefix_cons, hc]
      · simp [hd, Ne.symm hd]

/-- The relation read before a number is the one that the longest operator there says. -/
theorem SaysRelation.relationBefore_eq (h : SaysRelation before relation) :
    relationBefore before.reverse = relation := by
  rw [relationBefore, ← unspaced]
  cases h with
  | operator operator _ hmem hends hlongest =>
      obtain ⟨rest, hrest⟩ := (ends_iff hmem).1 hends
      have hother : ∀ other ∈ operators, other.1.reverse <+: unspaced before.reverse →
          other.1.length ≤ operator.length :=
        fun other hmem h => hlongest other hmem ((ends_iff hmem).2 h)
      rw [← hrest] at hother ⊢
      simp only [operators, List.mem_cons, Prod.mk.injEq, List.not_mem_nil, or_false] at hmem
      rcases hmem with ⟨rfl, rfl⟩ | ⟨rfl, rfl⟩ | ⟨rfl, rfl⟩ | ⟨rfl, rfl⟩ | ⟨rfl, rfl⟩ | ⟨rfl, rfl⟩ |
        ⟨rfl, rfl⟩
      · rfl
      · rfl
      · rfl
      · rfl
      · rfl
      · rfl
      · -- behind another sign the equal sign would not be the longest operator
        split
        · next tail htext =>
            exact absurd (hother ("<=", .le) (by decide) ⟨tail, htext.symm⟩) (by decide)
        · next tail htext =>
            exact absurd (hother (">=", .ge) (by decide) ⟨tail, htext.symm⟩) (by decide)
        · next tail htext =>
            exact absurd (hother ("!=", .ne) (by decide) ⟨tail, htext.symm⟩) (by decide)
        · next tail htext => cases htext
        · next tail htext => cases htext
        · rfl
  | none hnone =>
      have hnot : ∀ other ∈ operators, ¬ other.1.reverse <+: unspaced before.reverse :=
        fun other hmem h => hnone other hmem ((ends_iff hmem).2 h)
      split
      · next tail htext => exact absurd ⟨tail, htext.symm⟩ (hnot ("<=", .le) (by decide))
      · next tail htext => exact absurd ⟨tail, htext.symm⟩ (hnot (">=", .ge) (by decide))
      · next tail htext => exact absurd ⟨tail, htext.symm⟩ (hnot ("!=", .ne) (by decide))
      · next tail htext => exact absurd ⟨tail, htext.symm⟩ (hnot ("<", .lt) (by decide))
      · next tail htext => exact absurd ⟨tail, htext.symm⟩ (hnot (">", .gt) (by decide))
      · rfl

end ProseGuard.Guard
