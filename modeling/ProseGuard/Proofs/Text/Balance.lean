import Mathlib.Data.List.Infix
import ProseGuard.Proofs.Text.Number
import ProseGuard.Proofs.Text.Search

/-!
# Balanced parentheses

The depth of a text is the number of parentheses that it opens less the number of those that it
closes. A text is balanced if no start of it is of negative depth and the whole has none. Texts made
of balanced ones are balanced: `Balanced.append`, `Balanced.enclosed` and `Balanced.join`. What
stands beside a balanced text can be taken apart from it: `balanced_append_iff`.
-/

namespace ProseGuard.Text

/-- What a character adds to the depth of a text. -/
def nesting (c : Point) : Int :=
  if c = '(' then 1 else if c = ')' then -1 else 0

/-- The number of parentheses that a text opens less the number of those that it closes. -/
def depth : Text → Int
  | [] => 0
  | c :: cs => nesting c + depth cs

/-- No start of the text closes more parentheses than it opens, and the whole closes all of
them. -/
structure Balanced (text : Text) : Prop where
  opened : ∀ start, start <+: text → 0 ≤ depth start
  settled : depth text = 0

instance (text : Text) : Decidable text.Balanced :=
  decidable_of_iff ((∀ start ∈ text.inits, 0 ≤ depth start) ∧ depth text = 0)
    ⟨fun h => ⟨fun start hstart => h.1 start ((List.mem_inits start text).2 hstart), h.2⟩,
      fun h => ⟨fun start hstart => h.opened start ((List.mem_inits start text).1 hstart),
        h.settled⟩⟩

/-! ## The depth of a text -/

@[simp] theorem depth_nil : depth [] = 0 := rfl

@[simp] theorem depth_cons (c : Point) (cs : Text) : depth (c :: cs) = nesting c + depth cs := rfl

@[simp] theorem depth_append (a b : Text) : depth (a ++ b) = depth a + depth b := by
  induction a with
  | nil => rw [List.nil_append, depth_nil, Int.zero_add]
  | cons c cs ih => rw [List.cons_append, depth_cons, depth_cons, ih, Int.add_assoc]

/-- No parenthesis stands in the text. -/
structure IsFlat (text : Text) : Prop where
  no_open : ('(' : Point) ∉ text
  no_close : (')' : Point) ∉ text

instance (text : Text) : Decidable text.IsFlat :=
  decidable_of_iff (('(' : Point) ∉ text ∧ (')' : Point) ∉ text)
    ⟨fun h => ⟨h.1, h.2⟩, fun h => ⟨h.no_open, h.no_close⟩⟩

/-- Where no parenthesis stands in a text, none stands in a part of it. -/
theorem IsFlat.of_subset {text part : Text} (h : text.IsFlat) (hsub : part ⊆ text) : part.IsFlat :=
  ⟨fun hc => h.no_open (hsub hc), fun hc => h.no_close (hsub hc)⟩

/-- A text without parentheses has no depth. -/
theorem IsFlat.depth_eq_zero {text : Text} (h : text.IsFlat) : depth text = 0 := by
  induction text with
  | nil => rfl
  | cons c cs ih =>
      have hnone : nesting c = 0 := by
        have hopen := List.ne_of_not_mem_cons h.no_open
        have hclose := List.ne_of_not_mem_cons h.no_close
        simp [nesting, hopen.symm, hclose.symm]
      rw [depth_cons, hnone, ih (h.of_subset (List.subset_cons_self c cs)), Int.add_zero]

/-! ## Balanced texts -/

/-- The text in parentheses. -/
def enclosed (text : Text) : Text :=
  "(" ++ text ++ ")"

/-- The parentheses are the first and the last character. -/
theorem enclosed_eq (text : Text) : enclosed text = ('(' : Point) :: (text ++ [(')' : Point)]) := by
  show (('(' : Point) :: text) ++ [(')' : Point)] = _
  rw [List.cons_append]

/-- A text without parentheses is balanced. -/
theorem IsFlat.balanced {text : Text} (h : text.IsFlat) : text.Balanced where
  opened := by
    intro start hstart
    have := (h.of_subset hstart.subset).depth_eq_zero
    omega
  settled := h.depth_eq_zero

/-- Behind a balanced text, what follows is balanced exactly when both are together. -/
theorem balanced_append_iff {a b : Text} (ha : a.Balanced) : (a ++ b).Balanced ↔ b.Balanced := by
  have hdepth : ∀ tail, depth (a ++ tail) = depth tail := by
    intro tail
    rw [depth_append, ha.settled, Int.zero_add]
  constructor
  · intro h
    refine ⟨fun start hstart => ?_, by rw [← hdepth, h.settled]⟩
    rw [← hdepth]
    exact h.opened _ ((List.prefix_append_right_inj a).2 hstart)
  · intro h
    refine ⟨fun start hstart => ?_, by rw [hdepth, h.settled]⟩
    rcases prefix_append_cases hstart with hstart | ⟨tail, htail, rfl⟩
    · exact ha.opened start hstart
    · rw [hdepth]
      exact h.opened tail htail

namespace Balanced

variable {a b : Text}

/-- Balanced texts make a balanced one. -/
theorem append (ha : a.Balanced) (hb : b.Balanced) : (a ++ b).Balanced :=
  (balanced_append_iff ha).2 hb

/-- Inside a pair of parentheses, the depth of a balanced text is never zero. -/
theorem depth_pos (ha : a.Balanced) {start : Text} (hstart : start <+: a) : 0 < 1 + depth start := by
  have := ha.opened start hstart
  omega

/-- A balanced text in parentheses is balanced. -/
theorem enclosed (ha : a.Balanced) : (Text.enclosed a).Balanced := by
  have hsettled := ha.settled
  rw [enclosed_eq]
  refine ⟨fun start hstart => ?_, ?_⟩
  · -- the start is empty, ends within the text, or reaches the closing parenthesis
    rcases List.prefix_cons_iff.1 hstart with rfl | ⟨tail, rfl, htail⟩
    · exact Int.le_refl 0
    · rcases prefix_append_cases htail with htail | ⟨last, hlast, rfl⟩
      · have := ha.depth_pos htail
        show 0 ≤ 1 + depth tail
        omega
      · rcases List.prefix_cons_iff.1 hlast with rfl | ⟨rest, rfl, hrest⟩
        · rw [List.append_nil]
          show 0 ≤ 1 + depth a
          omega
        · rw [List.prefix_nil.1 hrest]
          show 0 ≤ 1 + depth (a ++ [(')' : Point)])
          rw [depth_append]
          show 0 ≤ 1 + (depth a + (-1 + 0))
          omega
  · show 1 + depth (a ++ [(')' : Point)]) = 0
    rw [depth_append]
    show 1 + (depth a + (-1 + 0)) = 0
    omega

/-- Balanced texts joined by a balanced separator are balanced. -/
theorem join {separator : Text} (hseparator : separator.Balanced) {texts : List Text}
    (h : ∀ text ∈ texts, text.Balanced) : (Text.join separator texts).Balanced := by
  rw [Text.join]
  induction texts with
  | nil => exact (by decide : IsFlat []).balanced
  | cons text texts ih =>
      have htext := h text List.mem_cons_self
      cases texts with
      | nil => rwa [List.intercalate_singleton]
      | cons next texts =>
          rw [List.intercalate_cons_cons]
          exact (htext.append hseparator).append
            (ih fun other hother => h other (List.mem_cons_of_mem _ hother))

end Balanced

/-! ## Numbers -/

/-- A written number holds no parenthesis. -/
theorem isFlat_toString (value : Int) : IsFlat (toString value) :=
  ⟨not_mem_toString value (by decide) (by decide), not_mem_toString value (by decide) (by decide)⟩

end ProseGuard.Text
