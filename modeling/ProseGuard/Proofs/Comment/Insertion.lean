import ProseGuard.Proofs.Comment.Modal
import ProseGuard.Proofs.Text.Insertion

/-!
# Supplying subjects at once

The subjects of modal phrases are supplied phrase by phrase, each time in the text that was made
before. A name without a space makes no phrase together with what stands around it
(`separates_subject`), unless it completes one behind a bare space. Main statement:
`supplySubject_eq_insertion`, by which supplying subjects is one insertion in the comment as it
stands.
-/

namespace ProseGuard.Comment

open Text (Isolated Separates insertBeforeEach)

/-- The modal phrases do not overlap. -/
theorem isolated_modals : Isolated modals where
  ne_nil modal hmodal := (modal_characters modal hmodal).1
  whole phrase hphrase tail htail hne other hother halike :=
    eq_of_suffix_modal phrase hphrase tail ((List.mem_tails _ _).2 htail) hne other hother halike

/-- Nor does the phrase that stands for one. -/
theorem isolated_verbless : Isolated [verbless] where
  ne_nil := by decide
  whole phrase hphrase tail htail := by
    have hall : ∀ tail ∈ verbless.tails, tail ≠ [] → tail <+: verbless ∨ verbless <+: tail →
        tail = verbless := by decide +kernel
    intro hne other hother halike
    obtain rfl := List.mem_singleton.1 hphrase
    obtain rfl := List.mem_singleton.1 hother
    exact ⟨hall tail ((List.mem_tails _ _).2 htail) hne halike, rfl⟩

/-- The last word of a modal phrase is "be". -/
theorem modal_behind_space : ∀ phrase ∈ modals, ∀ tail ∈ phrase.tails,
    tail.head? = some ' ' → (' ' : Point) ∉ tail.tail → tail.tail = "be" := by
  simp only [modals, Text.ofString, String.reduceToList, List.map]
  decide +kernel

/-- No phrase goes on, or begins, in a name without spaces and ends behind the space that follows
it. -/
theorem not_prefix_name {start part name modal rest : Text} (hpart : start ++ part ∈ modals)
    (hbehind : (' ' : Point) ∈ part) (hname : (' ' : Point) ∉ name) (hmodal : modal ∈ modals) :
    ¬ part <+: name ++ (' ' : Point) :: (modal ++ rest) := by
  intro h
  rcases Text.prefix_append_cases h with h | ⟨tail, htail, rfl⟩
  · exact hname (h.subset hbehind)
  · obtain ⟨c, cs, rfl⟩ : ∃ c cs, tail = c :: cs := by
      refine List.exists_cons_of_ne_nil fun hempty => hname ?_
      rwa [hempty, List.append_nil] at hbehind
    obtain ⟨rfl, hcs⟩ := List.cons_prefix_cons.1 htail
    have hends : (start ++ (name ++ .char ' ' :: cs)).getLast? ≠ some (.char ' ') :=
      (modal_characters _ hpart).2.2.2.1
    have hne : cs ≠ [] := by
      rintro rfl
      exact hends (by simp)
    have hphrase : start ++ (name ++ .char ' ' :: cs) = (start ++ name ++ [.char ' ']) ++ cs := by
      simp
    exact not_straddles hpart hmodal (List.append_ne_nil_of_right_ne_nil _ (List.cons_ne_nil _ _))
      hne hphrase hcs

/-- What leads a subject holds a full stop and a space, or a space alone. -/
theorem subjectLead_cases (comment : Text) :
    (subjectLead comment = ". ") ∨ (subjectLead comment = " " ∧ ('(' : Point) ∈ comment) := by
  unfold subjectLead
  split
  · next h => exact .inr ⟨rfl, by simpa using h⟩
  · exact .inl rfl

variable {name comment : Text}

/-- A subject that is supplied makes no phrase with the text around it. -/
theorem separates_subject (hspace : (' ' : Point) ∉ name)
    (hbe : ('(' : Point) ∉ comment ∨ ¬ ("be" : Text) <+: name) :
    Separates (subjectLead comment ++ name ++ " ") modals where
  not_entered start tail hphrase hstart htail modal hmodal rest h := by
    obtain ⟨c, cs, rfl⟩ := List.exists_cons_of_ne_nil htail
    rw [List.append_assoc, List.append_assoc] at h
    rcases subjectLead_cases comment with hlead | ⟨hlead, hparenthesis⟩
    · rw [hlead] at h
      have hstop : c = .char '.' := (List.cons_prefix_cons.1 h).1
      exact (modal_characters _ hphrase).2.2.2.2 '.' (by decide) (by simp [hstop])
    · -- a phrase that goes on behind the space ends in the name, and then its last word is "be"
      rw [hlead] at h
      obtain ⟨hc, hcs⟩ := List.cons_prefix_cons.1 h
      obtain rfl : c = .char ' ' := hc
      have hword : (start ++ [.char ' ']) ++ cs ∈ modals := by simpa using hphrase
      by_cases hcsSpace : (' ' : Point) ∈ cs
      · exact not_prefix_name hword hcsSpace hspace hmodal hcs
      · have hmem : .char ' ' :: cs ∈ (start ++ .char ' ' :: cs).tails :=
          (List.mem_tails _ _).2 (List.suffix_append start _)
        obtain rfl : cs = "be" := modal_behind_space _ hphrase _ hmem rfl hcsSpace
        have hstarts : ("be" : Text) <+: name := Text.prefix_of_prefix_append_cons (by decide) hcs
        exact hbe.elim (fun h => h hparenthesis) fun h => h hstarts
  not_left part hpart hne phrase hphrase modal hmodal rest h := by
    have hbegins : ∀ v : Text, (' ' : Point) ∉ v → part ≠ v ++ " " := by
      rintro v hv rfl
      rw [List.append_assoc] at h
      have hwhole : [] ++ phrase ∈ modals := hphrase
      exact not_prefix_name hwhole (modal_characters phrase hphrase).2.1 hv hmodal h
    obtain ⟨before, hpart⟩ := hpart
    rw [List.append_assoc] at hpart
    rcases List.append_eq_append_iff.1 hpart with ⟨lead, hlead, rfl⟩ | ⟨cs, rfl, hrest⟩
    · cases lead with
      | nil => exact hbegins name hspace rfl
      | cons c cs =>
          -- a phrase begins neither with a full stop nor with a space
          obtain ⟨d, ds, rfl⟩ :=
            List.exists_cons_of_ne_nil (modal_characters phrase hphrase).1
          obtain ⟨rfl, -⟩ := List.cons_prefix_cons.1 h
          have hmem : d ∈ subjectLead comment := by simp [hlead]
          have hmark : d = .char '.' ∨ d = .char ' ' := by
            rcases subjectLead_cases comment with h | ⟨h, -⟩
            · simpa [h, Text.ofString] using hmem
            · exact .inr (by simpa [h, Text.ofString] using hmem)
          rcases hmark with rfl | rfl
          · exact (modal_characters _ hphrase).2.2.2.2 '.' (by decide) List.mem_cons_self
          · exact (modal_characters _ hphrase).2.2.1 rfl
    · rcases List.append_eq_append_iff.1 hrest with ⟨gap, -, hspaced⟩ | ⟨gap, hname, hgap⟩
      · cases gap with
        | nil => exact hbegins [] List.not_mem_nil hspaced.symm
        | cons c cs =>
            have hnil : cs ++ part = [] := (List.cons.inj hspaced).2.symm
            exact hne (List.append_eq_nil_iff.1 hnil).2
      · exact hbegins gap (fun hmem => hspace (by simp [hname, hmem])) hgap

/-- Supplying subjects is one insertion. The phrases do not overlap; where one of them occurs, the
subject is put before each of them, and each phrase finds its turn at the places where it stood at
first; where none occurs, a subject with a verb is put before the phrase that stands for one. -/
theorem supplySubject_eq_insertion (hspace : (' ' : Point) ∉ name)
    (hbe : ('(' : Point) ∉ comment ∨ ¬ ("be" : Text) <+: name) :
    Text.Apart modals comment ∧
    ((∃ modal ∈ modals, modal <:+: comment) →
      supplySubject name comment =
          insertBeforeEach (subjectLead comment ++ name ++ " ") modals comment ∧
        ∀ done later, done ++ later = modals → ∀ phrase ∈ later, ∀ place,
          (place <:+ done.foldl (fun text modal =>
              insertBefore (subjectLead comment ++ name ++ " ") modal text) comment ∧
            phrase <+: place) ↔
          ∃ origin, origin <:+ comment ∧ phrase <+: origin ∧
            place = insertBeforeEach (subjectLead comment ++ name ++ " ") done origin) ∧
    ((∀ modal ∈ modals, ¬ modal <:+: comment) →
      supplySubject name comment =
        insertBeforeEach (". " ++ name ++ " is ") [verbless] comment) := by
  have hseparates := separates_subject hspace hbe
  have hrun : ∀ done : List Text, done.Nodup → done ⊆ modals →
      done.foldl (fun text modal =>
        insertBefore (subjectLead comment ++ name ++ " ") modal text) comment =
          insertBeforeEach (subjectLead comment ++ name ++ " ") done comment :=
    fun done hnodup hdone => Text.foldl_replaceAll isolated_modals hseparates hnodup hdone comment
  refine ⟨isolated_modals.apart comment, fun hoccurs => ⟨?_, ?_⟩, fun hnone => ?_⟩
  · have hany : (modals.any fun modal => Text.occurs modal comment) = true := by
      simpa [Text.occurs_iff] using hoccurs
    rw [supplySubject, if_pos hany]
    exact hrun modals modals_nodup (List.Subset.refl modals)
  · intro done later hmodals phrase hphrase place
    have hnodup := modals_nodup
    rw [← hmodals, List.nodup_append] at hnodup
    have hdone : done ⊆ modals := hmodals ▸ List.subset_append_left done later
    have hnew : phrase ∉ done := fun hmem => hnodup.2.2 phrase hmem phrase hphrase rfl
    have hmem : phrase ∈ modals := hmodals ▸ List.mem_append_right done hphrase
    rw [hrun done hnodup.1 hdone]
    exact Text.place_iff isolated_modals hseparates hdone hmem hnew
  · have hany : ¬ (modals.any fun modal => Text.occurs modal comment) = true := by
      simpa [Text.occurs_iff] using hnone
    rw [supplySubject, if_neg hany]
    exact Text.replaceAll_eq_insertBeforeEach isolated_verbless comment

/-- Two modal phrases of a comment with a parenthesis are led by a space and the subject. -/
theorem supplySubject_bound :
    ((' ' : Point) ∉ ("low" : Text) ∧ ¬ ("be" : Text) <+: "low") ∧
      (∃ modal ∈ modals,
        modal <:+: ("the bound (inclusive) must be set, Must not be high" : Text)) ∧
      supplySubject "low" "the bound (inclusive) must be set, Must not be high" =
        "the bound (inclusive)  low must be set,  low Must not be high" := by
  have hname : (' ' : Point) ∉ ("low" : Text) ∧ ¬ ("be" : Text) <+: "low" := by decide
  have hoccurs : ∃ modal ∈ modals,
      modal <:+: ("the bound (inclusive) must be set, Must not be high" : Text) := by
    refine ⟨"must be", by decide +kernel, Text.occurs_iff.1 (by decide +kernel)⟩
  have hbe : ('(' : Point) ∉ ("the bound (inclusive) must be set, Must not be high" : Text) ∨
      ¬ ("be" : Text) <+: "low" := .inr hname.2
  obtain ⟨-, hmodal, -⟩ := supplySubject_eq_insertion hname.1 hbe
  exact ⟨hname, hoccurs, (hmodal hoccurs).1.trans (by decide +kernel)⟩

end ProseGuard.Comment
