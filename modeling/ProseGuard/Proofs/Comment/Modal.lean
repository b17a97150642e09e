import Mathlib.Data.List.Infix
import ProseGuard.Proofs.Comment.Clause
import ProseGuard.Proofs.Text.Search

/-!
# Where modal phrases begin

No modal phrase begins within another or where another one does (`eq_of_suffix_modal`). Behind a
text that holds none and before a text that holds none, a phrase is therefore the only one. Main
statement: `supplySubject_once`, by which the subject is supplied there and nowhere else.
-/

namespace ProseGuard.Comment

/-- An end of a modal phrase that agrees with a phrase as far as both go is that phrase. -/
theorem eq_of_suffix_modal : ∀ phrase ∈ modals, ∀ tail ∈ phrase.tails, tail ≠ [] →
    ∀ modal ∈ modals, tail <+: modal ∨ modal <+: tail → tail = phrase ∧ phrase = modal := by
  simp only [modals, Text.ofString, String.reduceToList, List.map]
  decide

/-- The modal phrases hold a space, neither at the start nor at the end, and neither marks that
surround or end sentences nor parentheses. -/
theorem modal_characters : ∀ modal ∈ modals, modal ≠ [] ∧ (' ' : Point) ∈ modal ∧
    modal.head? ≠ some ' ' ∧ modal.getLast? ≠ some ' ' ∧ ∀ c ∈ (".,;()" : Text), c ∉ modal := by
  simp only [modals, Text.ofString, String.reduceToList, List.map]
  decide

/-- The words of a modal phrase stand a single space apart. -/
theorem not_two_spaces : ∀ modal ∈ modals, ¬ ("  " : Text) <:+: modal := by
  simp only [modals, Text.ofString, String.reduceToList, List.map]
  decide

theorem modals_nodup : modals.Nodup := by
  simp only [modals, Text.ofString, String.reduceToList, List.map]
  decide

section Two

variable {phrase modal : Text} (hphrase : phrase ∈ modals) (hmodal : modal ∈ modals)

include hphrase

/-- A phrase in a text behind a space stands in the text. -/
theorem occurs_of_cons_space {text : Text} (h : phrase <:+: (' ' : Point) :: text) :
    phrase <:+: text := by
  obtain ⟨hne, -, hstart, -⟩ := modal_characters phrase hphrase
  refine (List.infix_cons_iff.1 h).resolve_left fun hprefix => ?_
  obtain ⟨c, cs, rfl⟩ := List.exists_cons_of_ne_nil hne
  obtain ⟨rfl, -⟩ := List.cons_prefix_cons.1 hprefix
  exact hstart rfl

/-- A phrase in a text before a space stands in the text. -/
theorem occurs_of_append_space {text : Text} (h : phrase <:+: text ++ " ") : phrase <:+: text := by
  obtain ⟨hne, -, -, hend, -⟩ := modal_characters phrase hphrase
  refine (List.infix_concat_iff.1 h).resolve_left fun hsuffix => hend ?_
  obtain ⟨start, hstart⟩ := hsuffix
  rw [← List.getLast?_append_of_ne_nil start hne, hstart]
  exact List.getLast?_concat

include hmodal

/-- No phrase reaches from the text before another one into it. -/
theorem not_straddles {start tail rest : Text} (hstart : start ≠ []) (htail : tail ≠ [])
    (heq : phrase = start ++ tail) : ¬ tail <+: modal ++ rest := by
  intro h
  have hmem : tail ∈ phrase.tails := by
    rw [List.mem_tails, heq]
    exact List.suffix_append start tail
  have halike := List.prefix_or_prefix_of_prefix h (List.prefix_append modal rest)
  obtain ⟨hwhole, -⟩ := eq_of_suffix_modal phrase hphrase tail hmem htail modal hmodal halike
  exact hstart (List.append_left_eq_self.1 (heq.symm.trans hwhole.symm))

/-- A phrase that does not stand in a text does not begin in it either where another one follows. -/
theorem not_begins_before {text rest : Text} (htext : ¬ phrase <:+: text) :
    ∀ start, start <:+ text → start ≠ [] → ¬ phrase <+: start ++ (modal ++ " " ++ rest) := by
  intro start hsuffix hstart hprefix
  rcases Text.prefix_append_cases hprefix with h | ⟨tail, htail, heq⟩
  · exact htext (h.isInfix.trans hsuffix.isInfix)
  · by_cases hempty : tail = []
    · rw [hempty, List.append_nil] at heq
      exact htext (heq ▸ hsuffix.isInfix)
    · rw [List.append_assoc] at htail
      exact not_straddles hphrase hmodal hstart hempty heq htail

/-- A phrase within another one is that one. -/
theorem eq_of_infix_modal (h : phrase <:+: modal) : phrase = modal := by
  obtain ⟨before, behind, rfl⟩ := h
  have hne : phrase ++ behind ≠ [] :=
    List.append_ne_nil_of_left_ne_nil (modal_characters phrase hphrase).1 behind
  have hmem : phrase ++ behind ∈ (before ++ phrase ++ behind).tails := by
    rw [List.mem_tails, List.append_assoc]
    exact List.suffix_append before _
  exact (eq_of_suffix_modal _ hmodal _ hmem hne phrase hphrase
    (.inr (List.prefix_append phrase behind))).2.symm

/-- A phrase in what another one begins is that one, unless it stands behind it. -/
theorem eq_of_infix_append {rest : Text} (hrest : ¬ phrase <:+: rest)
    (h : phrase <:+: modal ++ " " ++ rest) : phrase = modal := by
  rw [List.append_assoc, List.infix_append_iff_ne_nil] at h
  rcases h with h | h | ⟨start, tail, hstart, htail, heq, hsuffix, hprefix⟩
  · exact eq_of_infix_modal hphrase hmodal h
  · exact absurd (occurs_of_cons_space hphrase h) hrest
  · -- the end of the modal phrase is the start of the other
    have hmem : start ∈ modal.tails := (List.mem_tails _ _).2 hsuffix
    have halike : start <+: phrase := heq ▸ List.prefix_append start tail
    obtain ⟨hwhole, rfl⟩ := eq_of_suffix_modal modal hmodal start hmem hstart phrase hphrase
      (.inl halike)
    rfl

/-- A phrase in a text with a modal phrase is that one, unless it stands before or behind it. -/
theorem eq_of_infix_comment {text rest : Text} (htext : ¬ phrase <:+: text)
    (hrest : ¬ phrase <:+: rest) (h : phrase <:+: text ++ (modal ++ " " ++ rest)) :
    phrase = modal := by
  rw [List.infix_append_iff_ne_nil] at h
  rcases h with h | h | ⟨start, tail, hstart, htail, heq, -, hprefix⟩
  · exact absurd h htext
  · exact eq_of_infix_append hphrase hmodal hrest h
  · rw [List.append_assoc] at hprefix
    exact absurd hprefix (not_straddles hphrase hmodal hstart htail heq)

/-- A phrase in a sentence that begins with a name and a modal phrase is that one, unless it stands
behind it. -/
theorem eq_of_infix_named {name rest : Text} (hname : (' ' : Point) ∉ name)
    (hrest : ¬ phrase <:+: rest) (h : phrase <:+: name ++ " " ++ (modal ++ " " ++ rest)) :
    phrase = modal := by
  obtain ⟨-, hspace, -, hend, -⟩ := modal_characters phrase hphrase
  have hsentence : phrase <:+: name ++ (' ' : Point) :: (modal ++ " " ++ rest) := by
    rwa [List.append_assoc] at h
  rw [List.infix_append_iff_ne_nil] at hsentence
  rcases hsentence with h | h | ⟨start, tail, hstart, htail, heq, -, hprefix⟩
  · exact absurd (h.subset hspace) hname
  · exact eq_of_infix_append hphrase hmodal hrest (occurs_of_cons_space hphrase h)
  · -- the phrase would go on, behind the space, into the modal phrase
    obtain ⟨c, cs, rfl⟩ := List.exists_cons_of_ne_nil htail
    obtain ⟨rfl, hrest'⟩ := List.cons_prefix_cons.1 hprefix
    have hcs : cs ≠ [] := by
      rintro rfl
      exact hend (heq ▸ List.getLast?_concat)
    rw [List.append_assoc] at hrest'
    rw [← List.singleton_append, ← List.append_assoc] at heq
    refine absurd hrest' (not_straddles hphrase hmodal ?_ hcs heq)
    exact List.append_ne_nil_of_right_ne_nil start (List.cons_ne_nil _ _)

/-- A phrase in a text behind whose full stop a sentence with a modal phrase begins is that one,
unless it stands before the stop or behind the modal phrase. -/
theorem eq_of_infix_sentence {name text rest : Text} (hname : (' ' : Point) ∉ name)
    (htext : ¬ phrase <:+: text) (hrest : ¬ phrase <:+: rest)
    (h : phrase <:+: text ++ (". " ++ (name ++ " " ++ (modal ++ " " ++ rest)))) :
    phrase = modal := by
  have hstop : (('.' : Char) : Point) ∉ phrase :=
    (modal_characters phrase hphrase).2.2.2.2 '.' (by decide)
  have hbehind := (Text.infix_or_of_infix_append_cons hstop h).resolve_left htext
  exact eq_of_infix_named hphrase hmodal hname hrest (occurs_of_cons_space hphrase hbehind)

/-- A phrase in a text behind which, and behind two spaces, a sentence with a modal phrase begins is
that one, unless it stands before the spaces or behind the modal phrase. -/
theorem eq_of_infix_spaced {name text rest : Text} (hname : (' ' : Point) ∉ name)
    (htext : ¬ phrase <:+: text) (hrest : ¬ phrase <:+: rest)
    (h : phrase <:+: text ++ " " ++ (" " ++ (name ++ " " ++ (modal ++ " " ++ rest)))) :
    phrase = modal := by
  rw [List.infix_append_iff_ne_nil] at h
  rcases h with h | h | ⟨start, tail, hstart, htail, heq, hsuffix, hprefix⟩
  · exact absurd (occurs_of_append_space hphrase h) htext
  · exact eq_of_infix_named hphrase hmodal hname hrest (occurs_of_cons_space hphrase h)
  · -- the phrase would hold both spaces
    obtain ⟨before, rfl, -⟩ := (List.suffix_concat_iff.1 hsuffix).resolve_left hstart
    obtain ⟨behind, rfl, -⟩ := (List.prefix_cons_iff.1 hprefix).resolve_left htail
    refine absurd ⟨before, behind, ?_⟩ (not_two_spaces phrase hphrase)
    rw [heq, List.append_assoc, List.append_assoc]
    rfl

end Two

/-- Replacing a modal phrase that stands in the text once. -/
theorem replaceAll_modal {modal text rest : Text} (hmodal : modal ∈ modals)
    (htext : ¬ modal <:+: text) (hrest : ¬ modal <:+: rest) (replacement : Text) :
    Text.replaceAll modal replacement (text ++ (modal ++ " " ++ rest)) =
      text ++ (replacement ++ " " ++ rest) := by
  have hbehind : Text.occurs modal (" " ++ rest) = false :=
    Text.occurs_eq_false_iff.2 fun h => hrest (occurs_of_cons_space hmodal h)
  have hbegins : ∀ start, start <:+ text → start ≠ [] →
      ¬ modal <+: start ++ (modal ++ " " ++ rest) :=
    not_begins_before hmodal hmodal htext
  rw [Text.replaceAll_append_of_forall _ hbegins, List.append_assoc,
    Text.replaceAll_append_self (modal_characters modal hmodal).1,
    Text.replaceAll_of_not_occurs hbehind, List.append_assoc]

/-- Phrases that do not occur leave a text as it is. -/
theorem foldl_insertBefore_of_not_occurs {inserted text : Text} {phrases : List Text}
    (h : ∀ phrase ∈ phrases, ¬ phrase <:+: text) :
    phrases.foldl (fun text phrase => insertBefore inserted phrase text) text = text := by
  induction phrases with
  | nil => rfl
  | cons phrase phrases ih =>
      have hnot := Text.occurs_eq_false_iff.2 (h phrase List.mem_cons_self)
      rw [List.foldl_cons, insertBefore, Text.replaceAll_of_not_occurs hnot]
      exact ih fun p hp => h p (List.mem_cons_of_mem _ hp)

/-- Where one of several phrases is the only one that occurs, before its subject is supplied and
after, the subject is supplied to it alone. -/
theorem foldl_insertBefore_of_only {inserted text supplied modal : Text} {phrases : List Text}
    (hnodup : phrases.Nodup) (hmodal : modal ∈ phrases)
    (htext : ∀ phrase ∈ phrases, phrase <:+: text → phrase = modal)
    (hsupplied : ∀ phrase ∈ phrases, phrase <:+: supplied → phrase = modal)
    (hinsert : insertBefore inserted modal text = supplied) :
    phrases.foldl (fun text phrase => insertBefore inserted phrase text) text = supplied := by
  -- the phrases before it find nothing in the text, those behind it nothing in what it made of it
  obtain ⟨before, behind, rfl⟩ := List.append_of_mem hmodal
  rw [List.nodup_append, List.nodup_cons] at hnodup
  obtain ⟨-, ⟨hnotBehind, -⟩, hnotBefore⟩ := hnodup
  have hbefore : ∀ phrase ∈ before, ¬ phrase <:+: text := by
    intro phrase h hoccurs
    have heq := htext phrase (List.mem_append_left _ h) hoccurs
    exact hnotBefore phrase h modal List.mem_cons_self heq
  have hbehind : ∀ phrase ∈ behind, ¬ phrase <:+: supplied := by
    intro phrase h hoccurs
    have heq := hsupplied phrase (List.mem_append_right _ (List.mem_cons_of_mem _ h)) hoccurs
    exact hnotBehind (heq ▸ h)
  rw [List.foldl_append, List.foldl_cons, foldl_insertBefore_of_not_occurs hbefore, hinsert,
    foldl_insertBefore_of_not_occurs hbehind]

/-- The subject of a modal phrase that stands in the comment once is supplied before it, and nothing
else is changed, if no phrase comes about with it. -/
theorem supplySubject_once {name modal text rest : Text} (hmodal : modal ∈ modals)
    (htext : ∀ phrase ∈ modals, ¬ phrase <:+: text) (hrest : ∀ phrase ∈ modals, ¬ phrase <:+: rest)
    (hsupplied : ∀ phrase ∈ modals,
      phrase <:+: text ++ (subjectLead (text ++ (modal ++ " " ++ rest)) ++
        (name ++ " " ++ (modal ++ " " ++ rest))) → phrase = modal) :
    supplySubject name (text ++ (modal ++ " " ++ rest)) =
      text ++ (subjectLead (text ++ (modal ++ " " ++ rest)) ++
        (name ++ " " ++ (modal ++ " " ++ rest))) := by
  have hany : (modals.any fun phrase =>
      Text.occurs phrase (text ++ (modal ++ " " ++ rest))) = true := by
    refine List.any_eq_true.2 ⟨modal, hmodal, Text.occurs_iff.2 ?_⟩
    rw [List.append_assoc]
    exact List.infix_append' _ _ _
  rw [supplySubject, if_pos hany]
  refine foldl_insertBefore_of_only modals_nodup hmodal ?_ hsupplied ?_
  · intro phrase h hoccurs
    exact eq_of_infix_comment h hmodal (htext phrase h) (hrest phrase h) hoccurs
  · rw [insertBefore, replaceAll_modal hmodal (htext modal hmodal) (hrest modal hmodal)]
    simp only [List.append_assoc]

/-- The subject of a modal phrase behind a description is supplied behind a full stop. -/
theorem supplySubject_modal {name description modal predicate : Text} (hname : IsName name)
    (hmodal : modal ∈ modals) (hdescription : IsDescription description)
    (hpredicate : IsPredicate predicate) :
    supplySubject name (description ++ (modal ++ " " ++ predicate)) =
      description ++ (". " ++ (name ++ " " ++ (modal ++ " " ++ predicate))) := by
  have hspace : (' ' : Point) ∉ name := hname.not_mem (by decide)
  have htext : ∀ phrase ∈ modals, ¬ phrase <:+: description :=
    fun phrase h => Text.occurs_eq_false_iff.1 (hdescription.no_modal phrase h)
  have hrest : ∀ phrase ∈ modals, ¬ phrase <:+: predicate :=
    fun phrase h => Text.occurs_eq_false_iff.1 (hpredicate.no_modal phrase h)
  have hlead : subjectLead (description ++ (modal ++ " " ++ predicate)) = ". " := by
    have hmarks := (modal_characters modal hmodal).2.2.2.2 '(' (by decide)
    have hparenthesis : ('(' : Point) ∉ (" " : Text) := by decide
    rw [subjectLead, if_neg]
    simp [hdescription.no_parenthesis, hpredicate.no_parenthesis, hmarks, hparenthesis]
  rw [supplySubject_once hmodal htext hrest, hlead]
  intro phrase h hoccurs
  rw [hlead] at hoccurs
  exact eq_of_infix_sentence h hmodal hspace (htext phrase h) (hrest phrase h) hoccurs

end ProseGuard.Comment
