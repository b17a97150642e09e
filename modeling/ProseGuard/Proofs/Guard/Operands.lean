import ProseGuard.Guard.Condition
import ProseGuard.Proofs.Results
import ProseGuard.Proofs.Text.Balance

/-!
# Reading joined conditions back

A text is cut at the occurrences of a separator outside all parentheses. Within parentheses around a
balanced text no occurrence counts (`piecesFrom_enclosed`), so conditions that are joined by an
operator can be read back from the text: `operands?_joined`.
-/

namespace ProseGuard

namespace Text

/-- The pieces of a text between the occurrences of a separator outside all parentheses. The level
is the depth of what stands before the text, of which the first `skip` characters still belong to an
occurrence. -/
def piecesFrom (separator : Text) : Int → Nat → Text → List Text
  | _, _, [] => [[]]
  | level, skip + 1, c :: cs => piecesFrom separator (level + nesting c) skip cs
  | level, 0, c :: cs =>
    if level = 0 ∧ separator.isPrefixOf (c :: cs) then
      [] :: piecesFrom separator (level + nesting c) (separator.length - 1) cs
    else (piecesFrom separator (level + nesting c) 0 cs).modifyHead (c :: ·)

/-- The text in a pair of parentheses that are the first and the last character. -/
def unenclosed? : Text → Option Text
  | [] => none
  | c :: cs => if c = '(' ∧ cs.getLast? = some ')' then some cs.dropLast else none

variable {separator : Text}

/-- What is written in parentheses is read back. -/
theorem unenclosed?_enclosed (text : Text) : unenclosed? (enclosed text) = some text := by
  rw [enclosed_eq, unenclosed?, if_pos ⟨rfl, List.getLast?_concat⟩, List.dropLast_concat]

/-- A part that begins at a level above zero and never comes down to it belongs to the first
piece. -/
theorem piecesFrom_append {level : Int} {part : Text} (rest : Text)
    (h : ∀ start, start <+: part → 0 < level + depth start) :
    piecesFrom separator level 0 (part ++ rest) =
      (piecesFrom separator (level + depth part) 0 rest).modifyHead (part ++ ·) := by
  induction part generalizing level with
  | nil =>
      rw [depth_nil, Int.add_zero]
      exact (congrFun List.modifyHead_id _).symm
  | cons c cs ih =>
      have hlevel : level ≠ 0 := by
        have := h [] List.nil_prefix
        rw [depth_nil] at this
        omega
      have hrest : ∀ start, start <+: cs → 0 < level + nesting c + depth start := by
        intro start hstart
        have := h (c :: start) (List.cons_prefix_cons.2 ⟨rfl, hstart⟩)
        rw [depth_cons] at this
        omega
      rw [List.cons_append, piecesFrom, if_neg (fun hcut => hlevel hcut.1), ih hrest,
        List.modifyHead_modifyHead, depth_cons, Int.add_assoc]
      rfl

/-- A balanced text in parentheses belongs to the first piece, whatever occurs in it. -/
theorem piecesFrom_enclosed (hopen : ('(' : Point) ∉ separator) (hne : separator ≠ [])
    {text : Text} (h : text.Balanced) (rest : Text) :
    piecesFrom separator 0 0 (enclosed text ++ rest) =
      (piecesFrom separator 0 0 rest).modifyHead (enclosed text ++ ·) := by
  have hfirst : ¬ separator.isPrefixOf (('(' : Point) :: (text ++ (')' : Point) :: rest)) := by
    obtain ⟨c, cs, rfl⟩ := List.exists_cons_of_ne_nil hne
    rw [List.isPrefixOf_iff_prefix, List.cons_prefix_cons]
    rintro ⟨rfl, -⟩
    exact hopen List.mem_cons_self
  have hlast : piecesFrom separator 1 0 ((')' : Point) :: rest) =
      (piecesFrom separator 0 0 rest).modifyHead ((')' : Point) :: ·) := by
    rw [piecesFrom, if_neg (fun hcut => absurd hcut.1 (by decide))]
    rfl
  have henclosed : ∀ behind : Text,
      enclosed text ++ behind = ('(' : Point) :: (text ++ (')' : Point) :: behind) := by
    intro behind
    rw [enclosed_eq, List.cons_append, List.append_assoc, List.singleton_append]
  simp only [henclosed]
  calc piecesFrom separator 0 0 (('(' : Point) :: (text ++ (')' : Point) :: rest))
      = (piecesFrom separator 1 0 (text ++ (')' : Point) :: rest)).modifyHead
          (('(' : Point) :: ·) := by
        rw [piecesFrom, if_neg (fun hcut => hfirst hcut.2)]
        rfl
    _ = ((piecesFrom separator 1 0 ((')' : Point) :: rest)).modifyHead (text ++ ·)).modifyHead
          (('(' : Point) :: ·) := by
        rw [piecesFrom_append _ fun start hstart => h.depth_pos hstart, h.settled, Int.add_zero]
    _ = (piecesFrom separator 0 0 rest).modifyHead
          fun piece => ('(' : Point) :: (text ++ (')' : Point) :: piece) := by
        rw [hlast, List.modifyHead_modifyHead, List.modifyHead_modifyHead]
        rfl

/-- The characters of an occurrence are passed over. -/
theorem piecesFrom_length (level : Int) (passed rest : Text) :
    piecesFrom separator level passed.length (passed ++ rest) =
      piecesFrom separator (level + depth passed) 0 rest := by
  induction passed generalizing level with
  | nil => rw [depth_nil, Int.add_zero]; rfl
  | cons c cs ih =>
      rw [List.length_cons, List.cons_append, piecesFrom, ih, depth_cons, Int.add_assoc]

/-- Outside parentheses the separator ends a piece. -/
theorem piecesFrom_separator (hflat : separator.IsFlat) (hne : separator ≠ []) (rest : Text) :
    piecesFrom separator 0 0 (separator ++ rest) = [] :: piecesFrom separator 0 0 rest := by
  obtain ⟨c, cs, rfl⟩ := List.exists_cons_of_ne_nil hne
  have hprefix : (c :: cs).isPrefixOf (c :: (cs ++ rest)) :=
    List.isPrefixOf_iff_prefix.2 (List.prefix_append (c :: cs) rest)
  have hdepth : nesting c + depth cs = 0 := hflat.depth_eq_zero
  rw [List.cons_append, piecesFrom, if_pos ⟨rfl, hprefix⟩, List.length_cons, Nat.add_sub_cancel,
    piecesFrom_length, Int.zero_add, hdepth]

/-- Balanced texts in parentheses, a separator between them, are the pieces of the whole. -/
theorem piecesFrom_join (hflat : separator.IsFlat) (hne : separator ≠ []) {texts : List Text}
    (htexts : texts ≠ []) (h : ∀ text ∈ texts, text.Balanced) :
    piecesFrom separator 0 0 (join separator (texts.map enclosed)) = texts.map enclosed := by
  rw [join]
  induction texts with
  | nil => exact absurd rfl htexts
  | cons text texts ih =>
      have htext := h text List.mem_cons_self
      cases texts with
      | nil =>
          rw [List.map_singleton, List.intercalate_singleton]
          have := piecesFrom_enclosed hflat.no_open hne htext []
          rw [List.append_nil] at this
          rw [this, piecesFrom, List.modifyHead_cons, List.append_nil]
      | cons next texts =>
          have hrest := ih (List.cons_ne_nil next texts) fun other hother =>
            h other (List.mem_cons_of_mem _ hother)
          rw [List.map_cons, List.map_cons, List.intercalate_cons_cons, List.append_assoc,
            piecesFrom_enclosed hflat.no_open hne htext, piecesFrom_separator hflat hne,
            List.modifyHead_cons, List.append_nil]
          exact congrArg (_ :: ·) hrest

end Text

/-- The conditions that a condition joins by the operator, if it joins any: what stands between its
occurrences outside all parentheses, each in parentheses of its own. -/
def operands? (operator condition : Text) : Option (List Text) :=
  (Text.piecesFrom (" " ++ operator ++ " ") 0 0 condition).mapM Text.unenclosed?

variable {operator : Text} {conditions : List Text}

/-- Several conditions are joined in parentheses. -/
theorem joined_eq (htwo : 2 ≤ conditions.length) :
    joined operator conditions =
      Text.join (" " ++ operator ++ " ") (conditions.map Text.enclosed) := by
  cases conditions with
  | nil => rfl
  | cons first others =>
      cases others with
      | nil => exact absurd htwo (by decide : ¬ 2 ≤ 1)
      | cons second others => rfl

/-- An operator without parentheses has none with spaces around it. -/
theorem isFlat_spaced (h : operator.IsFlat) : Text.IsFlat (" " ++ operator ++ " ") := by
  have hspace : Text.IsFlat " " := by decide
  constructor
  · simp only [List.mem_append, not_or]
    exact ⟨⟨hspace.no_open, h.no_open⟩, hspace.no_open⟩
  · simp only [List.mem_append, not_or]
    exact ⟨⟨hspace.no_close, h.no_close⟩, hspace.no_close⟩

/-- Several balanced conditions are read back from what joins them. -/
theorem operands?_joined (hoperator : operator.IsFlat) (htwo : 2 ≤ conditions.length)
    (h : ∀ c ∈ conditions, c.Balanced) :
    operands? operator (joined operator conditions) = some conditions := by
  have hne : conditions ≠ [] := by
    rintro rfl
    exact absurd htwo (by decide)
  rw [operands?, joined_eq htwo,
    Text.piecesFrom_join (isFlat_spaced hoperator) (List.cons_ne_nil _ _) hne h,
    Run.mapM_eq_some_iff, List.forall₂_map_left_iff, List.forall₂_same]
  exact fun c _ => Text.unenclosed?_enclosed c

/-- Joined balanced conditions are balanced. -/
theorem balanced_joined (hoperator : operator.IsFlat) (hne : conditions ≠ [])
    (h : ∀ c ∈ conditions, c.Balanced) : (joined operator conditions).Balanced := by
  by_cases htwo : 2 ≤ conditions.length
  · rw [joined_eq htwo]
    refine Text.Balanced.join (isFlat_spaced hoperator).balanced fun text htext => ?_
    obtain ⟨c, hc, rfl⟩ := List.mem_map.1 htext
    exact (h c hc).enclosed
  · have hone : conditions.length = 1 := by
      have := List.length_pos_of_ne_nil hne
      omega
    obtain ⟨c, rfl⟩ := List.length_eq_one_iff.1 hone
    exact h c List.mem_cons_self

end ProseGuard
