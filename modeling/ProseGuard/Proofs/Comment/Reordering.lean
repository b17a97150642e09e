import Mathlib.Data.List.Flatten
import Mathlib.Data.List.Permutation
import Mathlib.Logic.Relation
import ProseGuard.Comment.Dependency

/-!
# The order of branches

What a dependency tree says, told without the order in which its branches are listed. As long as no
two words have one place, and the root has no second subject and no second complement, what a tree
says is determined by the words of its branches and their labels (`Says.unique`), and none of these
changes where branches change places (`Reorders.keeps`). Main statement: `proposition_reordered`.
-/

namespace ProseGuard.Comment

/-- The text of the words that a condition holds of: each of them once, in order of their places,
separated by blanks. -/
def IsSpan (among : Token → Prop) (text : Text) : Prop :=
  ∃ ws : List Token, ws.Pairwise (fun v w => v.position < w.position) ∧
    (∀ w, w ∈ ws ↔ among w) ∧ text = Text.join " " (ws.map (·.text))

namespace Tree

/-- The branches of one root, that of the tree or one below it, change places. -/
inductive Reorders : Tree → Tree → Prop
  | here (token : Token) {children others : List Tree} : children.Perm others →
      Reorders (node token children) (node token others)
  | inside (token : Token) (before behind : List Tree) {child other : Tree} :
      Reorders child other →
      Reorders (node token (before ++ child :: behind)) (node token (before ++ other :: behind))

/-- The branches of any roots of the tree change places, time and again. -/
abbrev Reordered : Tree → Tree → Prop :=
  Relation.ReflTransGen Reorders

/-- No two words of the tree have one place, and its root has one subject and one complement at
most. -/
structure IsClear (tree : Tree) : Prop where
  places : (tree.subtree.map (·.position)).Nodup
  subject : tree.children.countP (fun child => subjectLabels.contains child.token.label) ≤ 1
  complement : tree.children.countP (fun child => complementLabels.contains child.token.label) ≤ 1

/-- What the words of a tree say, whatever the order of its branches. -/
structure Says (tree : Tree) (p : Proposition) : Prop where
  subject : IsSpan (fun w => ∃ child ∈ tree.children,
    child.token.label ∈ subjectLabels ∧ w ∈ child.subtree) p.subject
  predicate : IsSpan (fun w => (w = tree.token ∧ tree.token.base ≠ "be") ∨
    ∃ child ∈ tree.children, child.token.label ∉ skippedLabels ∧ w ∈ child.subtree) p.predicate
  negated : p.negated ↔ ∃ child ∈ tree.children, child.token.label = "neg"
  head_of_complement : tree.token.base = "be" → ∀ child ∈ tree.children,
    child.token.label ∈ complementLabels → p.head = child.token.text
  head_of_root : (tree.token.base = "be" → ∀ child ∈ tree.children,
    child.token.label ∉ complementLabels) → p.head = tree.token.text

end Tree

/-! ## Spans -/

variable {among : Token → Prop} {tokens : List Token}

/-- There is one text of given words. -/
theorem IsSpan.unique {a b : Text} (ha : IsSpan among a) (hb : IsSpan among b) : a = b := by
  obtain ⟨vs, hvs, hv, rfl⟩ := ha
  obtain ⟨ws, hws, hw, rfl⟩ := hb
  have hnodup : ∀ {us : List Token}, us.Pairwise (fun v w => v.position < w.position) →
      us.Nodup := by
    intro us hus
    refine hus.imp fun {v w} hlt => ?_
    rintro rfl
    exact Int.lt_irrefl _ hlt
  have hperm : vs.Perm ws :=
    (List.perm_ext_iff_of_nodup (hnodup hvs) (hnodup hws)).2 fun w => (hv w).trans (hw w).symm
  have hsame : vs = ws :=
    hperm.eq_of_pairwise (fun v w _ _ hvw hwv => absurd hwv (Int.lt_asymm hvw)) hvs hws
  rw [hsame]

/-- Sorted, words at different places are in order of their places. -/
theorem isSpan_spanText (h : (tokens.map (·.position)).Nodup) :
    IsSpan (· ∈ tokens) (spanText tokens) := by
  have hperm : (tokens.mergeSort fun a b => a.position ≤ b.position).Perm tokens :=
    List.mergeSort_perm _ _
  have hsorted : (tokens.mergeSort fun a b => a.position ≤ b.position).Pairwise
      (fun a b => a.position ≤ b.position) := by
    have htrans : ∀ a b c : Token, decide (a.position ≤ b.position) = true →
        decide (b.position ≤ c.position) = true → decide (a.position ≤ c.position) = true := by
      intro a b c hab hbc
      have := of_decide_eq_true hab
      have := of_decide_eq_true hbc
      exact decide_eq_true (by omega)
    have htotal : ∀ a b : Token,
        (decide (a.position ≤ b.position) || decide (b.position ≤ a.position)) = true := by
      intro a b
      rw [Bool.or_eq_true, decide_eq_true_eq, decide_eq_true_eq]
      omega
    exact (List.pairwise_mergeSort htrans htotal tokens).imp of_decide_eq_true
  have hapart : (tokens.mergeSort fun a b => a.position ≤ b.position).Pairwise
      (fun a b => a.position ≠ b.position) :=
    List.pairwise_map.1 ((hperm.map Token.position).nodup_iff.2 h)
  refine ⟨_, (hsorted.and hapart).imp fun {a b} hab => ?_, fun w => hperm.mem_iff, rfl⟩
  omega

/-- A condition that holds of the same words has the same text. -/
theorem IsSpan.congr {other : Token → Prop} {text : Text} (h : IsSpan among text)
    (hiff : ∀ w, among w ↔ other w) : IsSpan other text := by
  obtain ⟨ws, hws, hw, rfl⟩ := h
  exact ⟨ws, hws, fun w => (hw w).trans (hiff w), rfl⟩

namespace Tree

variable {tree other : Tree} {p q : Proposition}

/-! ## What a tree says -/

/-- Of branches of which one counts at most, all that count are the same. -/
theorem eq_of_countP_le_one {counts : Tree → Bool} {trees : List Tree}
    (h : trees.countP counts ≤ 1) {a b : Tree} (ha : a ∈ trees) (hb : b ∈ trees)
    (hca : counts a) (hcb : counts b) : a = b := by
  rw [List.countP_eq_length_filter] at h
  have ha' : a ∈ trees.filter counts := List.mem_filter.2 ⟨ha, hca⟩
  have hb' : b ∈ trees.filter counts := List.mem_filter.2 ⟨hb, hcb⟩
  cases hfilter : trees.filter counts with
  | nil => exact absurd (hfilter ▸ ha') List.not_mem_nil
  | cons c cs =>
      rw [hfilter, List.length_cons] at h
      obtain rfl : cs = [] := List.eq_nil_of_length_eq_zero (by omega)
      rw [hfilter, List.mem_singleton] at ha' hb'
      rw [ha', hb']

/-- The words of a tree are its root and those of its branches. -/
theorem subtree_eq (tree : Tree) : tree.subtree = tree.token :: tree.children.flatMap subtree := by
  cases tree with
  | node token children => exact subtree_node token children

/-- The words of some of the branches are in the order of those of all. -/
theorem flatMap_filter_sublist (counts : Tree → Bool) (trees : List Tree) :
    ((trees.filter counts).flatMap subtree).Sublist (trees.flatMap subtree) :=
  List.filter_sublist.flatMap subtree

/-- With one subject at most, the text of the subject is that of its words. -/
theorem IsClear.isSpan_subjectText (h : tree.IsClear) :
    IsSpan (fun w => ∃ child ∈ tree.children,
      child.token.label ∈ subjectLabels ∧ w ∈ child.subtree) tree.subjectText := by
  have hsubjects : ∀ child, child ∈ tree.children.filter
      (fun child => subjectLabels.contains child.token.label) ↔
      child ∈ tree.children ∧ child.token.label ∈ subjectLabels := by
    intro child
    rw [List.mem_filter, List.contains_iff_mem]
  have hone := h.subject
  rw [List.countP_eq_length_filter] at hone
  cases hfilter : tree.children.filter
      (fun child => subjectLabels.contains child.token.label) with
  | nil =>
      have htext : tree.subjectText = "" := by
        rw [subjectText, hfilter]
        rfl
      rw [hfilter] at hsubjects
      refine ⟨[], .nil, fun w => ?_, htext⟩
      constructor
      · intro hw
        exact absurd hw List.not_mem_nil
      · rintro ⟨child, hchild, hlabel, -⟩
        exact absurd ((hsubjects child).2 ⟨hchild, hlabel⟩) List.not_mem_nil
  | cons child rest =>
      rw [hfilter, List.length_cons] at hone
      obtain rfl : rest = [] := List.eq_nil_of_length_eq_zero (by omega)
      have htext : tree.subjectText = spanText child.subtree := by
        rw [subjectText, hfilter, List.map_singleton, List.find?_singleton]
        -- an empty text is what is answered where no text is found
        split
        · rfl
        · next hempty =>
          exact (Decidable.not_not.1 fun hne => hempty (decide_eq_true hne)).symm
      rw [hfilter] at hsubjects
      have hplaces : (child.subtree.map (·.position)).Nodup := by
        have hsub := flatMap_filter_sublist
          (fun child => subjectLabels.contains child.token.label) tree.children
        rw [hfilter, List.flatMap_singleton] at hsub
        have hall := h.places
        rw [subtree_eq] at hall
        exact hall.sublist ((hsub.cons tree.token).map (·.position))
      rw [htext]
      refine (isSpan_spanText hplaces).congr fun w => ?_
      constructor
      · intro hw
        obtain ⟨hchild, hlabel⟩ := (hsubjects child).1 List.mem_cons_self
        exact ⟨child, hchild, hlabel, hw⟩
      · rintro ⟨subject, hsubject, hlabel, hw⟩
        obtain rfl := List.mem_singleton.1 ((hsubjects subject).2 ⟨hsubject, hlabel⟩)
        exact hw

/-- The words of the predicate, each of which stands in the tree once. -/
theorem mem_predicateTokens_iff {w : Token} :
    w ∈ tree.predicateTokens ↔ (w = tree.token ∧ tree.token.base ≠ "be") ∨
      ∃ child ∈ tree.children, child.token.label ∉ skippedLabels ∧ w ∈ child.subtree := by
  have hroot : w ∈ (if tree.isCopular then [] else [tree.token]) ↔
      w = tree.token ∧ tree.token.base ≠ "be" := by
    by_cases hbe : tree.token.base = "be"
    · simp [isCopular, hbe]
    · simp [isCopular, hbe]
  rw [predicateTokens, List.mem_append, List.mem_flatMap, hroot, or_comm]
  refine or_congr_right ⟨?_, ?_⟩
  · rintro ⟨child, hchild, hw⟩
    obtain ⟨hchild, hlabel⟩ := List.mem_filter.1 hchild
    exact ⟨child, hchild, by simpa using hlabel, hw⟩
  · rintro ⟨child, hchild, hlabel, hw⟩
    exact ⟨child, List.mem_filter.2 ⟨hchild, by simpa using hlabel⟩, hw⟩

/-- No word stands in the predicate twice. -/
theorem IsClear.places_predicateTokens (h : tree.IsClear) :
    (tree.predicateTokens.map (·.position)).Nodup := by
  have hsub := flatMap_filter_sublist
    (fun child => !skippedLabels.contains child.token.label) tree.children
  have hall := h.places
  rw [subtree_eq] at hall
  unfold predicateTokens
  split
  · rw [List.append_nil]
    exact hall.sublist ((hsub.cons tree.token).map (·.position))
  · have hperm := List.perm_append_singleton tree.token
      ((tree.children.filter fun child => !skippedLabels.contains child.token.label).flatMap
        subtree)
    refine (hperm.map (·.position)).nodup_iff.2 ?_
    exact hall.sublist ((hsub.cons_cons tree.token).map (·.position))

/-- A clear tree says what its words do. -/
theorem IsClear.says_proposition (h : tree.IsClear) : tree.Says tree.proposition where
  subject := h.isSpan_subjectText
  predicate := (isSpan_spanText h.places_predicateTokens).congr fun w => mem_predicateTokens_iff
  negated := by
    show (tree.children.any fun child => child.token.label = "neg") = true ↔ _
    simp only [List.any_eq_true, decide_eq_true_eq]
  head_of_complement := by
    intro hbe child hchild hlabel
    have hcopular : tree.isCopular := decide_eq_true hbe
    show tree.headText = child.token.text
    rw [headText, if_pos hcopular]
    cases hfind : tree.children.find? fun child =>
        complementLabels.contains child.token.label with
    | none =>
        have hnone := List.find?_eq_none.1 hfind child hchild
        exact absurd (List.contains_iff_mem.2 hlabel) hnone
    | some found =>
        have hlabelled : complementLabels.contains found.token.label := by
          simpa using List.find?_some hfind
        have hfound := eq_of_countP_le_one h.complement (List.mem_of_find?_eq_some hfind) hchild
          hlabelled (List.contains_iff_mem.2 hlabel)
        rw [Option.getD_some, hfound]
  head_of_root := by
    intro hnone
    show tree.headText = tree.token.text
    unfold headText
    split
    · next hcopular =>
      have hfind : (tree.children.find? fun child =>
          complementLabels.contains child.token.label) = none := by
        rw [List.find?_eq_none]
        intro child hchild hlabel
        exact hnone (of_decide_eq_true hcopular) child hchild (List.contains_iff_mem.1 hlabel)
      rw [hfind, Option.getD_none]
    · rfl

/-- There is one proposition that a tree says. -/
theorem Says.unique (hp : tree.Says p) (hq : tree.Says q) : p = q := by
  have hsubject : p.subject = q.subject := hp.subject.unique hq.subject
  have hpredicate : p.predicate = q.predicate := hp.predicate.unique hq.predicate
  have hnegated : p.negated = q.negated := Bool.eq_iff_iff.2 (hp.negated.trans hq.negated.symm)
  have hhead : p.head = q.head := by
    by_cases hcomplement : tree.token.base = "be" ∧
        ∃ child ∈ tree.children, child.token.label ∈ complementLabels
    · obtain ⟨hbe, child, hchild, hlabel⟩ := hcomplement
      rw [hp.head_of_complement hbe child hchild hlabel,
        hq.head_of_complement hbe child hchild hlabel]
    · have hroot : tree.token.base = "be" → ∀ child ∈ tree.children,
          child.token.label ∉ complementLabels :=
        fun hbe child hchild hlabel => hcomplement ⟨hbe, child, hchild, hlabel⟩
      rw [hp.head_of_root hroot, hq.head_of_root hroot]
  cases p
  cases q
  exact Proposition.mk.injEq .. ▸ ⟨hsubject, hpredicate, hnegated, hhead⟩

/-! ## One change of places -/

namespace Reorders

/-- The root stays as it is. -/
theorem token_eq (h : Reorders tree other) : tree.token = other.token := by
  cases h with
  | here => rfl
  | inside => rfl

/-- The words stay the same. -/
theorem subtree_perm (h : Reorders tree other) : tree.subtree.Perm other.subtree := by
  induction h with
  | here token hperm =>
      rw [subtree_node, subtree_node]
      exact (hperm.flatMap_right subtree).cons token
  | inside token before behind _ ih =>
      rw [subtree_node, subtree_node, List.flatMap_append, List.flatMap_append, List.flatMap_cons,
        List.flatMap_cons]
      exact ((ih.append_right _).append_left _).cons token

/-- A branch of which something holds that reordering does not change is still there. -/
theorem exists_branch_iff {P : Tree → Prop} (hP : ∀ {a b}, Reorders a b → (P a ↔ P b))
    (h : Reorders tree other) :
    (∃ child ∈ tree.children, P child) ↔ ∃ child ∈ other.children, P child := by
  cases h with
  | here token hperm => exact exists_congr fun child => and_congr_left fun _ => hperm.mem_iff
  | inside token before behind hchild =>
      show (∃ child ∈ before ++ _ :: behind, P child) ↔ ∃ child ∈ before ++ _ :: behind, P child
      simp only [List.mem_append, List.mem_cons, or_and_right, exists_or, exists_eq_left,
        hP hchild]

/-- As many branches are labelled in one way as before. -/
theorem countP_labels (h : Reorders tree other) (labels : List Text) :
    tree.children.countP (fun child => labels.contains child.token.label) =
      other.children.countP fun child => labels.contains child.token.label := by
  cases h with
  | here token hperm => exact hperm.countP_eq _
  | inside token before behind hchild =>
      show (before ++ _ :: behind).countP _ = (before ++ _ :: behind).countP _
      rw [List.countP_append, List.countP_append, List.countP_cons, List.countP_cons,
        hchild.token_eq]

/-- A clear tree stays clear. -/
theorem isClear (h : Reorders tree other) (hclear : tree.IsClear) : other.IsClear where
  places := (h.subtree_perm.map (·.position)).nodup_iff.1 hclear.places
  subject := h.countP_labels subjectLabels ▸ hclear.subject
  complement := h.countP_labels complementLabels ▸ hclear.complement

/-- What the words say stays the same. -/
theorem keeps (h : Reorders tree other) (hp : tree.Says p) : other.Says p := by
  have hword : ∀ (w : Token) (labelled : Text → Prop),
      (∃ child ∈ tree.children, labelled child.token.label ∧ w ∈ child.subtree) ↔
        ∃ child ∈ other.children, labelled child.token.label ∧ w ∈ child.subtree := by
    intro w labelled
    refine h.exists_branch_iff fun {a b} hab => ?_
    rw [hab.token_eq, hab.subtree_perm.mem_iff]
  have hlabel : ∀ labelled : Token → Prop, (∃ child ∈ tree.children, labelled child.token) ↔
      ∃ child ∈ other.children, labelled child.token :=
    fun labelled => h.exists_branch_iff fun {a b} hab => by rw [hab.token_eq]
  refine ⟨?_, ?_, ?_, ?_, ?_⟩
  · exact hp.subject.congr fun w => hword w (· ∈ subjectLabels)
  · rw [← h.token_eq]
    exact hp.predicate.congr fun w => or_congr_right (hword w (· ∉ skippedLabels))
  · exact hp.negated.trans (hlabel fun token => token.label = "neg")
  · intro hbe child hchild hcomplement
    rw [← h.token_eq] at hbe
    -- the complement was there before, at another place
    obtain ⟨before, hbefore, hlabelled, htext⟩ :=
      (hlabel fun token => token.label ∈ complementLabels ∧ token.text = child.token.text).2
        ⟨child, hchild, hcomplement, rfl⟩
    rw [hp.head_of_complement hbe before hbefore hlabelled, htext]
  · intro hnone
    rw [← h.token_eq] at hnone ⊢
    refine hp.head_of_root fun hbe child hchild hcomplement => ?_
    obtain ⟨behind, hbehind, hlabelled⟩ :=
      (hlabel fun token => token.label ∈ complementLabels).1 ⟨child, hchild, hcomplement⟩
    exact hnone hbe behind hbehind hlabelled

end Reorders

/-! ## Any change of places -/

/-- A clear tree stays clear, wherever its branches change places. -/
theorem IsClear.reordered (h : tree.IsClear) (hreordered : Reordered tree other) :
    other.IsClear := by
  induction hreordered with
  | refl => exact h
  | tail _ hstep ih => exact hstep.isClear ih

/-- Where the branches of one branch change places, those of the tree do. -/
theorem Reordered.inside (token : Token) (before behind : List Tree) {child changed : Tree}
    (h : Reordered child changed) :
    Reordered (node token (before ++ child :: behind))
      (node token (before ++ changed :: behind)) :=
  Relation.ReflTransGen.lift (fun tree => node token (before ++ tree :: behind))
    (fun _ _ hstep => Reorders.inside token before behind hstep) _ _ h

/-- The branches of all branches of a root can change places at once. -/
theorem reordered_of_children (token : Token) {children changed : List Tree}
    (h : List.Forall₂ Reordered children changed) :
    Reordered (node token children) (node token changed) := by
  -- those before the place that has been come to are in their new order
  have hbehind : ∀ before : List Tree,
      Reordered (node token (before ++ children)) (node token (before ++ changed)) := by
    induction h with
    | nil => exact fun before => .refl
    | @cons child other _ _ hchild _ ih =>
        intro before
        refine (hchild.inside token before _).trans ?_
        simpa only [List.append_assoc, List.singleton_append] using ih (before ++ [other])
  exact hbehind []

/-- What a tree says is what it says after its branches have changed places. -/
theorem Says.reordered (h : tree.Says p) (hreordered : Reordered tree other) : other.Says p := by
  induction hreordered with
  | refl => exact h
  | tail _ hstep ih => exact hstep.keeps ih

/-- A tree whose words have different places, with one subject and one complement at most, says the
same wherever its branches change places: as its subject the words of the branch that is the
subject, as its predicate the root, unless that is a copula, and the words of the branches that are
part of it, each word once and in order of the places, and the contrary exactly if a negation
depends on the root. -/
theorem proposition_reordered (h : tree.IsClear) (hreordered : Reordered tree other) :
    other.proposition = tree.proposition ∧ tree.Says tree.proposition :=
  ⟨(h.reordered hreordered).says_proposition.unique (h.says_proposition.reordered hreordered),
    h.says_proposition⟩

/-- The analysis of the sentence "the lower bound must not be null". -/
def boundTree : Tree :=
  .node ⟨"be", 5, "ROOT", "be"⟩ [
    .node ⟨"bound", 2, "nsubj", "bound"⟩ [
      .node ⟨"the", 0, "det", "the"⟩ [],
      .node ⟨"lower", 1, "amod", "low"⟩ []],
    .node ⟨"must", 3, "aux", "must"⟩ [],
    .node ⟨"not", 4, "neg", "not"⟩ [],
    .node ⟨"null", 6, "acomp", "null"⟩ []]

/-- The same, all branches listed the other way round. -/
def turnedTree : Tree :=
  .node ⟨"be", 5, "ROOT", "be"⟩ [
    .node ⟨"null", 6, "acomp", "null"⟩ [],
    .node ⟨"not", 4, "neg", "not"⟩ [],
    .node ⟨"must", 3, "aux", "must"⟩ [],
    .node ⟨"bound", 2, "nsubj", "bound"⟩ [
      .node ⟨"lower", 1, "amod", "low"⟩ [],
      .node ⟨"the", 0, "det", "the"⟩ []]]

/-- The sentence says the same about its words in their places. -/
theorem proposition_reordered_boundTree :
    boundTree.IsClear ∧ Reordered boundTree turnedTree ∧
      turnedTree.proposition = ⟨"the lower bound", "null", true, "null"⟩ := by
  have hclear : boundTree.IsClear := by
    constructor
    · decide
    · decide
    · decide
  have hreordered : Reordered boundTree turnedTree := by
    have hbound := Relation.ReflTransGen.single
      (Reorders.here ⟨"bound", 2, "nsubj", "bound"⟩ (List.reverse_perm
        [.node ⟨"lower", 1, "amod", "low"⟩ [], .node ⟨"the", 0, "det", "the"⟩ []]))
    refine Relation.ReflTransGen.tail (reordered_of_children _
      (.cons hbound (.cons .refl (.cons .refl (.cons .refl .nil))))) ?_
    exact .here _ (List.reverse_perm _).symm
  refine ⟨hclear, hreordered, (proposition_reordered hclear hreordered).1.trans ?_⟩
  cbv

end Tree

end ProseGuard.Comment
