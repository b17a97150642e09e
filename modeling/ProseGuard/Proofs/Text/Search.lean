import ProseGuard.Text.Search

/-!
# Occurrences and replacements

An occurrence is an infix (`occurs_iff`). Replacing passes over a text in which no occurrence
begins (`replaceAll_append_of_forall`), exchanges an occurrence that it meets
(`replaceAll_append_self`) and works apart on the two sides of a character that the pattern does not
hold (`replaceAll_append_cons`). A search fails if the reader fails at every place
(`firstMatch_eq_none_iff`) and passes over a start in which it does (`firstMatch_append`).
-/

namespace ProseGuard.Text

variable {pattern replacement : Text}

/-- A pattern occurs in a text exactly when it is an infix of it. -/
theorem occurs_iff {text : Text} : occurs pattern text ↔ pattern <:+: text := by
  induction text with
  | nil => rw [occurs, List.isEmpty_iff, List.infix_nil]
  | cons c cs ih =>
      rw [occurs, Bool.or_eq_true, List.isPrefixOf_iff_prefix, ih, List.infix_cons_iff]

/-- A pattern does not occur in a text exactly when it is no infix of it. -/
theorem occurs_eq_false_iff {text : Text} : occurs pattern text = false ↔ ¬ pattern <:+: text := by
  rw [← occurs_iff, Bool.not_eq_true]

/-- A start of two texts is a start of the first or reaches into the second. -/
theorem prefix_append_cases {start a b : Text} (h : start <+: a ++ b) :
    start <+: a ∨ ∃ tail, tail <+: b ∧ start = a ++ tail := by
  rcases List.prefix_or_prefix_of_prefix h (List.prefix_append a b) with hstart | ⟨tail, rfl⟩
  · exact .inl hstart
  · exact .inr ⟨tail, (List.prefix_append_right_inj a).1 h, rfl⟩

/-- A pattern does not reach over a character that it does not hold. -/
theorem infix_or_of_infix_append_cons {c : Point} {before behind : Text} (hc : c ∉ pattern)
    (h : pattern <:+: before ++ c :: behind) : pattern <:+: before ∨ pattern <:+: behind := by
  have hstart : ∀ start, start <:+: pattern → start <+: c :: behind → start = [] := by
    intro start hwithin hstart
    cases start with
    | nil => rfl
    | cons d ds =>
        obtain ⟨rfl, -⟩ := List.cons_prefix_cons.1 hstart
        exact absurd (hwithin.subset List.mem_cons_self) hc
  rcases List.infix_append_iff.1 h with h | h | ⟨start, tail, rfl, hsuffix, hprefix⟩
  · exact .inl h
  · refine (List.infix_cons_iff.1 h).imp_left fun hprefix => ?_
    rw [hstart pattern List.infix_rfl hprefix]
    exact List.nil_infix
  · rw [hstart tail (List.suffix_append start tail).isInfix hprefix, List.append_nil]
    exact .inl hsuffix.isInfix

/-- A pattern stands to one side of a seam, unless it holds the characters on both sides of it. -/
theorem beside_of_append_eq {left right before behind : Text}
    (h : left ++ right = before ++ (pattern ++ behind))
    (hseam : (∀ c ∈ left.getLast?, c ∉ pattern) ∨ ∀ c ∈ right.head?, c ∉ pattern) :
    (∃ tail, left = before ++ (pattern ++ tail) ∧ behind = tail ++ right) ∨
      ∃ start, before = left ++ start ∧ right = start ++ (pattern ++ behind) := by
  rcases List.append_eq_append_iff.1 h with ⟨start, rfl, hright⟩ | ⟨tail, rfl, hrest⟩
  · exact .inr ⟨start, rfl, hright⟩
  · rcases List.append_eq_append_iff.1 hrest with ⟨rest, rfl, hbehind⟩ | ⟨rest, rfl, rfl⟩
    · exact .inl ⟨rest, rfl, hbehind⟩
    · -- the seam is within the pattern, which is at most at an end of it
      cases rest with
      | nil => exact .inl ⟨[], by simp, rfl⟩
      | cons c cs =>
          obtain rfl | ⟨ds, d, rfl⟩ := List.eq_nil_or_concat tail
          · exact .inr ⟨[], by simp, rfl⟩
          · rcases hseam with hleft | hright
            · exact absurd (by simp) (hleft d (by simp))
            · exact absurd (by simp) (hright c rfl)

/-- Where no occurrence begins, a text is passed over. -/
theorem replaceAll_append_of_forall {text : Text} (rest : Text)
    (h : ∀ s, s <:+ text → s ≠ [] → ¬ pattern <+: s ++ rest) :
    replaceAll pattern replacement (text ++ rest) =
      text ++ replaceAll pattern replacement rest := by
  induction text with
  | nil => rfl
  | cons c cs ih =>
      have hnot : ¬ pattern.isPrefixOf (c :: (cs ++ rest)) = true := by
        rw [List.isPrefixOf_iff_prefix]
        exact h (c :: cs) List.suffix_rfl (List.cons_ne_nil c cs)
      have hrest := ih fun s hs => h s (hs.trans (List.suffix_cons c cs))
      show replaceFrom pattern replacement 0 (c :: (cs ++ rest)) = _
      rw [replaceFrom, if_neg hnot]
      exact congrArg (c :: ·) hrest

/-- Characters to be skipped are skipped. -/
theorem replaceFrom_length (skipped rest : Text) :
    replaceFrom pattern replacement skipped.length (skipped ++ rest) =
      replaceAll pattern replacement rest := by
  induction skipped with
  | nil => rfl
  | cons c cs ih => exact ih

/-- An occurrence that is met is exchanged. -/
theorem replaceAll_append_self (hne : pattern ≠ []) (rest : Text) :
    replaceAll pattern replacement (pattern ++ rest) =
      replacement ++ replaceAll pattern replacement rest := by
  obtain ⟨c, cs, rfl⟩ := List.exists_cons_of_ne_nil hne
  have hprefix : (c :: cs).isPrefixOf (c :: (cs ++ rest)) = true :=
    List.isPrefixOf_iff_prefix.2 (List.prefix_append (c :: cs) rest)
  show replaceFrom (c :: cs) replacement 0 (c :: (cs ++ rest)) = _
  rw [replaceFrom, if_pos hprefix, ← replaceFrom_length cs rest]
  rfl

/-- A pattern does not reach over a character that it does not hold, where it begins before. -/
theorem prefix_of_prefix_append_cons {c : Point} {before behind : Text} (hc : c ∉ pattern)
    (h : pattern <+: before ++ c :: behind) : pattern <+: before := by
  rcases prefix_append_cases h with h | ⟨tail, htail, rfl⟩
  · exact h
  · cases tail with
    | nil => simp
    | cons d ds =>
        obtain ⟨rfl, -⟩ := List.cons_prefix_cons.1 htail
        exact absurd (List.mem_append_right _ List.mem_cons_self) hc

/-- A character that the pattern does not hold stays, and the two sides of it are replaced
apart. -/
theorem replaceAll_append_cons {c : Point} (hne : pattern ≠ []) (hc : c ∉ pattern)
    (before behind : Text) :
    replaceAll pattern replacement (before ++ c :: behind) =
      replaceAll pattern replacement before ++ c :: replaceAll pattern replacement behind := by
  -- an occurrence that begins before the character ends before it, and so does what is skipped
  have hfrom : ∀ skip ≤ before.length,
      replaceFrom pattern replacement skip (before ++ c :: behind) =
        replaceFrom pattern replacement skip before ++
          c :: replaceFrom pattern replacement 0 behind := by
    induction before with
    | nil =>
        intro skip hskip
        obtain rfl := Nat.le_zero.1 hskip
        have hnot : ¬ pattern.isPrefixOf (c :: behind) = true := by
          rw [List.isPrefixOf_iff_prefix]
          intro h
          have hempty : pattern <+: [] := prefix_of_prefix_append_cons hc h
          exact hne (List.prefix_nil.1 hempty)
        rw [List.nil_append, replaceFrom, replaceFrom, if_neg hnot, List.nil_append]
    | cons d ds ih =>
        intro skip hskip
        cases skip with
        | succ skip => exact ih skip (Nat.le_of_succ_le_succ hskip)
        | zero =>
            have hiff : pattern <+: d :: (ds ++ c :: behind) ↔ pattern <+: d :: ds := by
              constructor
              · intro (hlong : pattern <+: (d :: ds) ++ c :: behind)
                exact prefix_of_prefix_append_cons hc hlong
              · intro h
                exact h.trans (List.prefix_append (d :: ds) _)
            rw [List.cons_append, replaceFrom, replaceFrom]
            simp only [List.isPrefixOf_iff_prefix, hiff]
            split
            · next h =>
                have hlength : pattern.length - 1 ≤ ds.length :=
                  Nat.sub_le_of_le_add h.length_le
                rw [ih _ hlength, List.append_assoc]
            · rw [ih 0 (Nat.zero_le _), List.cons_append]
  exact hfrom 0 (Nat.zero_le _)

/-! ## Searching -/

section Reader

variable {α : Type} {read : Text → Text → Option α} {before : Text}

/-- A search passes over a place at which the reader fails. -/
theorem firstMatch_cons_of_none {c : Point} {cs : Text} (h : read before (c :: cs) = none) :
    firstMatch read before (c :: cs) = firstMatch read (c :: before) cs := by
  rw [firstMatch, h]

/-- A search passes over a start at whose places the reader fails. -/
theorem firstMatch_append {start rest : Text}
    (h : ∀ left right, start = left ++ right → right ≠ [] →
      read (left.reverse ++ before) (right ++ rest) = none) :
    firstMatch read before (start ++ rest) = firstMatch read (start.reverse ++ before) rest := by
  induction start generalizing before with
  | nil => rfl
  | cons c cs ih =>
      have hnone := h [] (c :: cs) rfl (List.cons_ne_nil c cs)
      have hrest : firstMatch read (c :: before) (cs ++ rest) =
          firstMatch read (cs.reverse ++ c :: before) rest := ih fun left right heq hne => by
        simpa using h (c :: left) right (congrArg (c :: ·) heq) hne
      rw [List.reverse_nil, List.nil_append] at hnone
      rw [List.cons_append, firstMatch, ← List.cons_append, hnone]
      simpa using hrest

/-- Nothing is found exactly if the reader fails at every place. -/
theorem firstMatch_eq_none_iff {text : Text} :
    firstMatch read before text = none ↔
      ∀ passed rest, text = passed ++ rest → read (passed.reverse ++ before) rest = none := by
  constructor
  · rintro h passed rest rfl
    induction passed generalizing before with
    | nil =>
        cases rest with
        | nil => exact h
        | cons c cs =>
            rw [List.nil_append, firstMatch] at h
            cases hread : read before (c :: cs) with
            | none => exact hread
            | some found =>
                rw [hread] at h
                exact nomatch h
    | cons c cs ih =>
        rw [List.cons_append, firstMatch] at h
        cases hread : read before (c :: (cs ++ rest)) with
        | none =>
            rw [hread] at h
            simpa using ih h
        | some found =>
            rw [hread] at h
            exact nomatch h
  · intro h
    rw [← List.append_nil text, firstMatch_append fun left right heq _ =>
      by rw [List.append_nil]; exact h left right heq]
    exact h text [] (List.append_nil text).symm

/-- Nothing is found where the reader finds nothing at any place. -/
theorem firstMatch_eq_none_of_forall {text : Text}
    (h : ∀ passed rest found, text = passed ++ rest →
      read (passed.reverse ++ before) rest ≠ some found) : firstMatch read before text = none :=
  firstMatch_eq_none_iff.2 fun passed rest htext =>
    Option.eq_none_iff_forall_ne_some.2 fun found => h passed rest found htext

/-- Where the reader finds the same at all places at which it succeeds, so does a search. -/
theorem firstMatch_eq_some_of_forall {text passed rest : Text} {found : α}
    (htext : text = passed ++ rest) (hread : read (passed.reverse ++ before) rest ≠ none)
    (h : ∀ left right other, text = left ++ right →
      read (left.reverse ++ before) right = some other → other = found) :
    firstMatch read before text = some found := by
  cases hmatch : firstMatch read before text with
  | none => exact absurd (firstMatch_eq_none_iff.1 hmatch passed rest htext) hread
  | some other =>
      obtain ⟨left, right, hparts, hother, -⟩ := firstMatch_eq_some_iff.1 hmatch
      rw [h left right other hparts hother]

/-- What stands before a text matters to a search only as far as it does to the reader. -/
theorem firstMatch_congr {other text : Text}
    (h : ∀ passed rest, text = passed ++ rest →
      read (passed.reverse ++ before) rest = read (passed.reverse ++ other) rest) :
    firstMatch read before text = firstMatch read other text := by
  induction text generalizing before other with
  | nil => exact h [] [] rfl
  | cons c cs ih =>
      have hhere := h [] (c :: cs) rfl
      rw [List.reverse_nil, List.nil_append, List.nil_append] at hhere
      have hrest : firstMatch read (c :: before) cs = firstMatch read (c :: other) cs :=
        ih fun passed rest heq => by
          simpa using h (c :: passed) rest (congrArg (c :: ·) heq)
      rw [firstMatch, firstMatch, hhere, hrest]

end Reader

end ProseGuard.Text
