import Mathlib.Data.List.DropRight
import ProseGuard.Text.Alphanumeric
import ProseGuard.Text.Blank

/-!
# Words and margins

The words of a text that a blank divides are those of its two sides (`words_append_cons`), and a
margin that consists of the characters to trim comes off on either side
(`trimWhere_append_left`, `trimWhere_append_right`, `trimWhere_around`). Everything about joined and
trimmed text follows from these.
-/

namespace ProseGuard.Text

variable {α : Type} {p : α → Bool}

/-- Where two lists meet, the last piece of the one and the first of the other are one piece. -/
theorem splitWhere_append (p : α → Bool) (as bs : List α) :
    ∃ before last first after, splitWhere p as = before ++ [last] ∧
      splitWhere p bs = first :: after ∧
      splitWhere p (as ++ bs) = before ++ (last ++ first) :: after := by
  induction as with
  | nil =>
      obtain ⟨first, after, hbs⟩ := List.exists_cons_of_ne_nil (splitWhere_ne_nil p bs)
      exact ⟨[], [], first, after, rfl, hbs, hbs⟩
  | cons a as ih =>
      -- `a` goes to the first piece, which is the last one if there is no other
      obtain ⟨before, last, first, after, has, hbs, happend⟩ := ih
      rw [List.cons_append]
      by_cases h : p a
      · exact ⟨[] :: before, last, first, after, by simp [splitWhere, h, has], hbs,
          by simp [splitWhere, h, happend]⟩
      · cases before with
        | nil =>
            exact ⟨[], a :: last, first, after, by simp [splitWhere, h, has], hbs,
              by simp [splitWhere, h, happend]⟩
        | cons piece before =>
            exact ⟨(a :: piece) :: before, last, first, after, by simp [splitWhere, h, has], hbs,
              by simp [splitWhere, h, happend]⟩

/-- An item that ends a piece divides the pieces. -/
theorem splitWhere_append_cons {a : α} (h : p a) (as bs : List α) :
    splitWhere p (as ++ a :: bs) = splitWhere p as ++ splitWhere p bs := by
  obtain ⟨before, last, first, after, has, hbs, happend⟩ := splitWhere_append p as (a :: bs)
  rw [splitWhere, if_pos h, List.cons.injEq] at hbs
  obtain ⟨rfl, rfl⟩ := hbs
  rw [happend, has, List.append_nil, List.append_assoc, List.singleton_append]

/-- Items that end no piece stay together. -/
theorem splitWhere_of_forall {as : List α} (h : ∀ a ∈ as, p a = false) :
    splitWhere p as = [as] := by
  induction as with
  | nil => rfl
  | cons a as ih =>
      rw [splitWhere, ih fun b hb => h b (List.mem_cons_of_mem _ hb),
        if_neg (by simp [h a List.mem_cons_self])]

/-- What ends a piece stands in none. -/
theorem not_of_mem_splitWhere {as piece : List α} (h : piece ∈ splitWhere p as) :
    ∀ a ∈ piece, p a = false := by
  induction as generalizing piece with
  | nil =>
      obtain rfl := List.mem_singleton.1 h
      exact fun a ha => absurd ha List.not_mem_nil
  | cons b bs ih =>
      obtain ⟨first, after, hbs⟩ := List.exists_cons_of_ne_nil (splitWhere_ne_nil p bs)
      by_cases hb : p b
      · rw [splitWhere, if_pos hb, List.mem_cons] at h
        rcases h with rfl | h
        · exact fun a ha => absurd ha List.not_mem_nil
        · exact ih h
      · rw [splitWhere, if_neg hb, hbs] at h
        rcases List.mem_cons.1 h with rfl | h
        · intro a ha
          rcases List.mem_cons.1 ha with rfl | ha
          · exact Bool.eq_false_iff.2 hb
          · exact ih (hbs ▸ List.mem_cons_self) a ha
        · exact ih (hbs ▸ List.mem_cons_of_mem _ h)

/-- What stands in the pieces stood in the list. -/
theorem mem_of_mem_splitWhere {as piece : List α} (h : piece ∈ splitWhere p as) {a : α}
    (ha : a ∈ piece) : a ∈ as := by
  have hmem : a ∈ (splitWhere p as).flatten := List.mem_flatten.2 ⟨piece, h, ha⟩
  rw [flatten_splitWhere] at hmem
  exact (List.mem_filter.1 hmem).1

/-- A blank divides the words of a text. -/
theorem words_append_cons {c : Point} (h : isBlank c) (a b : Text) :
    words (a ++ c :: b) = words a ++ words b := by
  rw [words, splitWhere_append_cons h, List.filter_append]
  rfl

/-- A space divides the words of a text. -/
theorem words_append_space (a b : Text) : words (a ++ " " ++ b) = words a ++ words b := by
  rw [List.append_assoc]
  exact words_append_cons (by decide) a b

/-- A space behind a text is in none of its words. -/
theorem words_concat_space (text : Text) : words (text ++ " ") = words text := by
  have h := words_append_space text []
  rw [List.append_nil] at h
  exact h.trans (List.append_nil _)

/-- Blanks before a text are in none of its words. -/
theorem words_append_of_isBlank {margin : Text} (h : ∀ c ∈ margin, isBlank c) (text : Text) :
    words (margin ++ text) = words text := by
  induction margin with
  | nil => rfl
  | cons c cs ih =>
      rw [List.cons_append, ← List.nil_append (c :: (cs ++ text)),
        words_append_cons (h c List.mem_cons_self), ih fun d hd => h d (List.mem_cons_of_mem c hd)]
      rfl

/-- A text without blanks is a word. -/
theorem words_of_forall {word : Text} (hne : word ≠ []) (h : ∀ c ∈ word, isBlank c = false) :
    words word = [word] := by
  rw [words, splitWhere_of_forall h, List.filter_cons_of_pos (by simpa using hne)]
  rfl

/-- No blank stands in a word. -/
theorem not_isBlank_of_mem_words {text word : Text} (h : word ∈ words text) :
    ∀ c ∈ word, isBlank c = false :=
  not_of_mem_splitWhere (List.mem_filter.1 h).1

/-- The ranges of blanks, each by its first code and the number of its codes. -/
def blankRanges : List (Nat × Nat) := [
  (0x9, 5), (0x1C, 5), (0x85, 1), (0xA0, 1), (0x1680, 1), (0x2000, 11), (0x2028, 2), (0x202F, 1),
  (0x205F, 1), (0x3000, 1)]

/-- Every blank is of one of the ranges. -/
theorem exists_blankRange {c : Point} (h : isBlank c) :
    ∃ range ∈ blankRanges, ∃ k < range.2, c.toNat = range.1 + k := by
  have hrange : ∃ range ∈ blankRanges, range.1 ≤ c.toNat ∧ c.toNat < range.1 + range.2 := by
    simp only [isBlank, within, blanks, insideFrom] at h
    simp only [blankRanges, List.mem_cons, exists_eq_or_imp, List.not_mem_nil, or_false]
    grind
  obtain ⟨range, hrange, hle, hlt⟩ := hrange
  exact ⟨range, hrange, c.toNat - range.1, by omega, by omega⟩

/-- No blank is a character of words. -/
theorem not_isWordChar_of_isBlank {c : Point} (h : isBlank c) : isWordChar c = false := by
  have hall : ∀ range ∈ blankRanges, ∀ k < range.2, range.1 + k ≠ 0x5F ∧
      insideFrom false alphanumerics (range.1 + k) = false := by
    decide +kernel
  obtain ⟨range, hrange, k, hk, hc⟩ := exists_blankRange h
  obtain ⟨hlow, hout⟩ := hall range hrange k hk
  rw [← hc] at hlow hout
  rw [isWordChar, isAlphanumeric, within, hout, Bool.or_false, decide_eq_false_iff_not]
  rintro rfl
  exact hlow rfl

/-! ## Joining -/

/-- Joined words begin as the first of them. -/
theorem head?_join (separator : Text) {ws : List Text} (h : ∀ word ∈ ws, word ≠ []) :
    (join separator ws).head? = ws.head?.bind List.head? := by
  rw [join]
  cases ws with
  | nil => rfl
  | cons word ws =>
      have hne : word ≠ [] := h word List.mem_cons_self
      cases ws with
      | nil => rw [List.intercalate_singleton, List.head?_cons, Option.bind_some]
      | cons next ws =>
          rw [List.intercalate_cons_cons, List.append_assoc, List.head?_append_of_ne_nil _ hne,
            List.head?_cons, Option.bind_some]

/-- Joined words end as the last of them. -/
theorem getLast?_join (separator : Text) {ws : List Text} (h : ∀ word ∈ ws, word ≠ []) :
    (join separator ws).getLast? = ws.getLast?.bind List.getLast? := by
  rw [join]
  induction ws with
  | nil => rfl
  | cons word ws ih =>
      cases ws with
      | nil => rw [List.intercalate_singleton, List.getLast?_singleton, Option.bind_some]
      | cons next ws =>
          have hrest := ih fun w hw => h w (List.mem_cons_of_mem _ hw)
          obtain ⟨last, hlast⟩ : ∃ last, (next :: ws).getLast? = some last :=
            Option.isSome_iff_exists.1 (by simp)
          obtain ⟨c, hc⟩ : ∃ c, last.getLast? = some c := by
            have hne := h last (List.mem_cons_of_mem _ (List.mem_of_getLast? hlast))
            exact ⟨_, List.getLast?_eq_some_getLast hne⟩
          rw [List.intercalate_cons_cons, List.getLast?_append, hrest, List.getLast?_cons_cons,
            hlast, Option.bind_some, hc, Option.some_or]

/-- What stands in joined words stands in the separator or in a word. -/
theorem mem_join {separator : Text} {ws : List Text} {c : Point} (h : c ∈ join separator ws) :
    c ∈ separator ∨ ∃ word ∈ ws, c ∈ word := by
  rw [join] at h
  induction ws with
  | nil => exact absurd h List.not_mem_nil
  | cons word ws ih =>
      cases ws with
      | nil =>
          rw [List.intercalate_singleton] at h
          exact .inr ⟨word, List.mem_cons_self, h⟩
      | cons next ws =>
          rw [List.intercalate_cons_cons, List.append_assoc, List.mem_append, List.mem_append] at h
          rcases h with h | h | h
          · exact .inr ⟨word, List.mem_cons_self, h⟩
          · exact .inl h
          · exact (ih h).imp_right fun ⟨w, hw, hc⟩ => ⟨w, List.mem_cons_of_mem _ hw, hc⟩

/-- Joined words are read back. -/
theorem words_join {ws : List Text} (h : ∀ word ∈ ws, word ≠ [] ∧ ∀ c ∈ word, isBlank c = false) :
    words (join " " ws) = ws := by
  induction ws with
  | nil => rfl
  | cons word ws ih =>
      obtain ⟨hne, hblank⟩ := h word List.mem_cons_self
      have hrest := ih fun w hw => h w (List.mem_cons_of_mem _ hw)
      rw [join] at hrest ⊢
      cases ws with
      | nil => rw [List.intercalate_singleton, words_of_forall hne hblank]
      | cons next ws =>
          rw [List.intercalate_cons_cons, words_append_space, words_of_forall hne hblank, hrest]
          rfl

/-- A text is its words, a single space between any two. -/
def IsSpaced (text : Text) : Prop :=
  join " " (words text) = text

namespace IsSpaced

variable {text : Text} (h : IsSpaced text)

include h

/-- Spaces are the only blanks of such a text. -/
theorem eq_space_of_isBlank {c : Point} (hc : c ∈ text) (hblank : isBlank c) : c = ' ' := by
  rw [← h] at hc
  rcases mem_join hc with hc | ⟨word, hword, hc⟩
  · exact List.mem_singleton.1 hc
  · rw [not_isBlank_of_mem_words hword c hc] at hblank
    exact nomatch hblank

/-- Such a text does not begin with a blank. -/
theorem not_isBlank_of_mem_head? {c : Point} (hc : c ∈ text.head?) : isBlank c = false := by
  rw [← h, head?_join _ fun _ => mem_words_ne_nil] at hc
  obtain ⟨word, hword, hc⟩ := Option.bind_eq_some_iff.1 hc
  exact not_isBlank_of_mem_words (List.mem_of_mem_head? hword) c (List.mem_of_mem_head? hc)

/-- Such a text does not end with a blank. -/
theorem not_isBlank_of_mem_getLast? {c : Point} (hc : c ∈ text.getLast?) : isBlank c = false := by
  rw [← h, getLast?_join _ fun _ => mem_words_ne_nil] at hc
  obtain ⟨word, hword, hc⟩ := Option.bind_eq_some_iff.1 hc
  exact not_isBlank_of_mem_words (List.mem_of_getLast? hword) c (List.mem_of_getLast? hc)

end IsSpaced

/-! ## Trimming -/

variable {marks : Point → Bool}

/-- Trimming works on the start and then on the end. -/
theorem trimWhere_eq (marks : Point → Bool) (text : Text) :
    trimWhere marks text = (text.dropWhile marks).rdropWhile marks :=
  rfl

/-- A margin before the text comes off. -/
theorem trimWhere_append_left {margin : Text} (h : ∀ c ∈ margin, marks c) (text : Text) :
    trimWhere marks (margin ++ text) = trimWhere marks text := by
  rw [trimWhere, trimWhere, List.dropWhile_append_of_pos h]

/-- A margin behind the text comes off. -/
theorem trimWhere_append_right {margin : Text} (h : ∀ c ∈ margin, marks c) (text : Text) :
    trimWhere marks (text ++ margin) = trimWhere marks text := by
  rw [trimWhere, trimWhere, List.dropWhile_append]
  have hmargin : margin.reverse.dropWhile marks = [] :=
    List.dropWhile_eq_nil_iff.2 fun c hc => h c (List.mem_reverse.1 hc)
  by_cases hall : (text.dropWhile marks).isEmpty
  · rw [if_pos hall, List.isEmpty_iff.1 hall, List.dropWhile_eq_nil_iff.2 h]
  · rw [if_neg hall, List.reverse_append, List.dropWhile_append, hmargin]
    rfl

/-- Trimming takes a margin off on either side and nothing else. -/
theorem exists_margins (marks : Point → Bool) (text : Text) :
    ∃ left right, text = left ++ trimWhere marks text ++ right ∧
      (∀ c ∈ left, marks c) ∧ ∀ c ∈ right, marks c := by
  refine ⟨text.takeWhile marks, (text.dropWhile marks).rtakeWhile marks, ?_,
    fun c hc => List.mem_takeWhile_imp hc, fun c hc => List.mem_rtakeWhile_imp hc⟩
  rw [trimWhere_eq, List.append_assoc, List.rdropWhile_append_rtakeWhile,
    List.takeWhile_append_dropWhile]

/-- A trimmed text is part of the text. -/
theorem trimWhere_subset (marks : Point → Bool) (text : Text) : trimWhere marks text ⊆ text := by
  obtain ⟨left, right, htext, -⟩ := exists_margins marks text
  intro c hc
  rw [htext]
  exact List.mem_append_left _ (List.mem_append_right _ hc)

/-- A text that neither begins nor ends with a mark is left as it is. -/
theorem trimWhere_eq_self {text : Text} (hfirst : ∀ c ∈ text.head?, marks c = false)
    (hlast : ∀ c ∈ text.getLast?, marks c = false) : trimWhere marks text = text := by
  have hstart : text.dropWhile marks = text := by
    cases text with
    | nil => rfl
    | cons c cs => exact List.dropWhile_cons_of_neg (by simp [hfirst c rfl])
  rw [trimWhere_eq, hstart, List.rdropWhile_eq_self_iff]
  intro hne
  simp [hlast _ (List.getLast?_eq_some_getLast hne)]

/-- Where nothing but marks stands, nothing is left. -/
theorem trimWhere_eq_nil_iff {text : Text} :
    trimWhere marks text = [] ↔ ∀ c ∈ text, marks c := by
  constructor
  · intro h
    obtain ⟨left, right, htext, hleft, hright⟩ := exists_margins marks text
    rw [h, List.append_nil] at htext
    intro c hc
    rcases List.mem_append.1 (htext ▸ hc) with hc | hc
    · exact hleft c hc
    · exact hright c hc
  · intro h
    rw [← List.append_nil text, trimWhere_append_left h]
    rfl

/-- A trimmed text does not end with a mark. -/
theorem not_marks_of_mem_getLast? {text : Text} :
    ∀ c ∈ (trimWhere marks text).getLast?, marks c = false := by
  intro c hc
  have hne : (text.dropWhile marks).rdropWhile marks ≠ [] := by
    intro h
    rw [trimWhere_eq, h] at hc
    exact nomatch hc
  have hlast := List.rdropWhile_last_not marks (text.dropWhile marks) hne
  rw [trimWhere_eq, List.getLast?_eq_some_getLast hne, Option.mem_some_iff] at hc
  rw [hc] at hlast
  exact Bool.eq_false_iff.2 hlast

/-- A trimmed text does not begin with a mark. -/
theorem not_marks_of_mem_head? {text : Text} :
    ∀ c ∈ (trimWhere marks text).head?, marks c = false := by
  intro c hc
  have hprefix : trimWhere marks text <+: text.dropWhile marks :=
    trimWhere_eq marks text ▸ List.rdropWhile_prefix marks _
  have hstart : (text.dropWhile marks).head? = some c := by
    obtain ⟨rest, hrest⟩ := hprefix
    rw [← hrest, List.head?_append, Option.mem_def.1 hc, Option.some_or]
  have hfirst := List.head?_dropWhile_not marks text
  rwa [hstart] at hfirst

/-- Marks are dropped before a text that does not begin with one, and no further. -/
theorem dropWhile_append_of_head {text : Text} (hne : text ≠ [])
    (hfirst : ∀ c ∈ text.head?, marks c = false) (before : Text) :
    (before ++ text).dropWhile marks = before.dropWhile marks ++ text := by
  obtain ⟨c, cs, rfl⟩ := List.exists_cons_of_ne_nil hne
  have hstop : (c :: cs).dropWhile marks = c :: cs :=
    List.dropWhile_cons_of_neg (by simp [hfirst c rfl])
  rw [List.dropWhile_append, hstop]
  split
  · next hempty => rw [List.isEmpty_iff.1 hempty, List.nil_append]
  · rfl

/-- Around a text that neither begins nor ends with a mark, the two sides are trimmed apart. -/
theorem trimWhere_around {text : Text} (hne : text ≠ [])
    (hfirst : ∀ c ∈ text.head?, marks c = false) (hlast : ∀ c ∈ text.getLast?, marks c = false)
    (before behind : Text) :
    trimWhere marks (before ++ (text ++ behind)) =
      before.dropWhile marks ++ (text ++ behind.rdropWhile marks) := by
  have hleft : (before ++ (text ++ behind)).dropWhile marks =
      before.dropWhile marks ++ (text ++ behind) := by
    refine dropWhile_append_of_head (List.append_ne_nil_of_left_ne_nil hne behind) ?_ before
    rwa [List.head?_append_of_ne_nil text hne]
  have hlast : ∀ c ∈ (before.dropWhile marks ++ text).reverse.head?, marks c = false := by
    rwa [List.head?_reverse, List.getLast?_append_of_ne_nil _ hne]
  have hright := dropWhile_append_of_head
    (mt List.reverse_eq_nil_iff.1 (List.append_ne_nil_of_right_ne_nil _ hne)) hlast behind.reverse
  rw [← List.reverse_append] at hright
  rw [trimWhere, hleft, ← List.append_assoc, hright, List.reverse_append, List.reverse_reverse,
    List.append_assoc]
  rfl

/-- A text that begins with no mark makes a difference before any other. -/
theorem trimWhere_append_ne {c : Point} (hc : marks c = false) (start text : Text) :
    trimWhere marks (c :: start ++ text) ≠ trimWhere marks text := by
  obtain ⟨left, right, htext, -⟩ := exists_margins marks text
  intro heq
  by_cases hnil : trimWhere marks text = []
  · rw [hnil, trimWhere_eq_nil_iff] at heq
    have hmark := heq c List.mem_cons_self
    rw [hc] at hmark
    exact nomatch hmark
  · have hwhole : c :: start ++ text =
        c :: start ++ left ++ (trimWhere marks text ++ right) := by
      conv_lhs => rw [htext]
      simp only [List.append_assoc]
    have hfirst : (c :: start ++ left).dropWhile marks = c :: start ++ left :=
      List.dropWhile_cons_of_neg (by rw [hc]; exact Bool.false_ne_true)
    have hlength := congrArg List.length heq
    rw [hwhole, trimWhere_around hnil not_marks_of_mem_head? not_marks_of_mem_getLast?, hfirst]
      at hlength
    simp only [List.length_append, List.length_cons] at hlength
    omega

end ProseGuard.Text
