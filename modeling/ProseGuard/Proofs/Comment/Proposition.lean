import ProseGuard.Proofs.Comment.Modal
import ProseGuard.Proofs.Comment.Sentence

/-!
# What a comment with a modal phrase says

Main statement: `propositions_supplySubject`, by which a description, a modal phrase and a predicate
say of the parameter what the predicate says, and nothing else.
-/

namespace ProseGuard.Comment

open Text (isBlank trimMarks)

/-- No sentence ends within a text without semicolons that holds no full stop before a blank or at
its end. -/
theorem unended_of_forall {text : Text} (hblank : ∀ c ∈ text, isBlank c → c = ' ')
    (hsemicolon : (';' : Point) ∉ text) (hstop : ¬ (". " : Text) <:+: text)
    (hends : ∀ c ∈ text.getLast?, c ≠ ('.' : Point)) : Unended text := by
  induction text with
  | nil => trivial
  | cons c cs ih =>
      have hc : c ≠ ';' := fun heq => hsemicolon (heq ▸ List.mem_cons_self)
      cases cs with
      | nil =>
          have hstop' : c ≠ '.' := hends c rfl
          exact ⟨by simp [endsSentence, hc, hstop'], trivial⟩
      | cons d ds =>
          refine ⟨?_, ih ?_ ?_ ?_ ?_⟩
          · -- a stop before a blank would be one before a space
            have hnot : ¬(c = '.' ∧ isBlank d) := by
              rintro ⟨rfl, hd⟩
              obtain rfl := hblank d (by simp) hd
              exact hstop (List.prefix_append (". " : Text) ds).isInfix
            simpa [endsSentence, hc] using hnot
          · exact fun e he => hblank e (List.mem_cons_of_mem _ he)
          · exact fun h => hsemicolon (List.mem_cons_of_mem _ h)
          · exact fun h => hstop (List.infix_cons h)
          · exact fun e he => hends e (by rwa [List.getLast?_cons_cons])

variable {name modal predicate description : Text} (hname : IsName name) (hmodal : modal ∈ modals)
  (hpredicate : IsPredicate predicate)

include hname hmodal hpredicate

/-- A name, a modal phrase and a predicate make one sentence. -/
theorem unended_sentence : Unended (name ++ " " ++ (modal ++ " " ++ predicate)) := by
  have hmarks := (modal_characters modal hmodal).2.2.2.2
  have hunended : Unended predicate := by
    refine unended_of_forall (fun c hc => hpredicate.spaced.eq_space_of_isBlank hc)
      hpredicate.no_semicolon (Text.occurs_eq_false_iff.1 hpredicate.no_stop) fun c hc => ?_
    rintro rfl
    exact absurd (hpredicate.ends '.' hc) (by decide)
  rw [List.append_assoc, List.append_assoc]
  refine .append (hname.not_mem (by decide)) (hname.not_mem (by decide)) ?_
  refine .append (by decide) (by decide) ?_
  refine .append (hmarks ';' (by decide)) (hmarks '.' (by decide)) ?_
  exact .append (by decide) (by decide) hunended

omit hmodal hpredicate in
/-- The sentence begins as the name does. -/
theorem mem_name_of_mem_head? {rest : Text} {c : Point} (hc : c ∈ (name ++ rest).head?) :
    c ∈ name := by
  rw [List.head?_append_of_ne_nil _ hname.ne_nil] at hc
  exact List.mem_of_mem_head? hc

omit hname hmodal in
/-- The sentence ends as the predicate does. -/
theorem mem_getLast?_of_mem {start : Text} {c : Point} (hc : c ∈ (start ++ predicate).getLast?) :
    c ∈ predicate.getLast? := by
  rwa [List.getLast?_append_of_ne_nil _ hpredicate.ne_nil] at hc

/-- A description, a modal phrase and a predicate say of the name what the predicate says, and
nothing else. -/
theorem propositions_supplySubject (hdescription : IsDescription description) :
    ∃ before head, propositions (supplySubject name (description ++ (modal ++ " " ++ predicate))) =
      before ++ [⟨name, predicate, !affirmativeModals.contains modal, head⟩] ∧
      ∀ p ∈ before, p.predicate = [] := by
  have hnoise : ∀ c, sentenceNoise.contains c → isMargin c :=
    fun c hc => (by decide : ∀ c ∈ sentenceNoise, isMargin c) c (by simpa using hc)
  have hmarginNoise : ∀ c, sentenceNoise.contains c = false →
      sentenceMargin.contains c = false := by
    intro c hc
    have hsub : ∀ c ∈ sentenceMargin, sentenceNoise.contains c := by decide
    exact Bool.eq_false_iff.2 fun h => Bool.eq_false_iff.1 hc (hsub c (by simpa using h))
  have hnameNoise : ∀ c ∈ name, sentenceNoise.contains c = false :=
    fun c hc => Bool.eq_false_iff.2 fun h => hname.not_mem (hnoise c h) hc
  have hcontent : trimMarks sentenceNoise (name ++ " " ++ (modal ++ " " ++ predicate)) ≠ "" := by
    intro hnil
    obtain ⟨c, cs, hcs⟩ := List.exists_cons_of_ne_nil hname.ne_nil
    have hc : c ∈ name := hcs ▸ List.mem_cons_self
    have hmark := Text.trimWhere_eq_nil_iff.1 hnil c (by simp [hc])
    exact Bool.eq_false_iff.1 (hnameNoise c hc) hmark
  have hmargin : trimMarks sentenceMargin (name ++ " " ++ (modal ++ " " ++ predicate)) =
      name ++ " " ++ (modal ++ " " ++ predicate) := by
    refine Text.trimWhere_eq_self (fun c hc => hmarginNoise c ?_) fun c hc => hmarginNoise c ?_
    · rw [List.append_assoc] at hc
      exact hnameNoise c (mem_name_of_mem_head? hname hc)
    · rw [← List.append_assoc] at hc
      exact hpredicate.not_noise_of_mem_getLast? (mem_getLast?_of_mem hpredicate hc)
  have hblank : ∀ c ∈ (name ++ " " ++ (modal ++ " " ++ predicate)).head?, isBlank c = false := by
    intro c hc
    rw [List.append_assoc] at hc
    exact hname.not_isBlank (mem_name_of_mem_head? hname hc)
  -- what stands before the name has no predicate, and the last sentence is read back
  obtain ⟨before, hsentences, hbefore⟩ := sentences_append hdescription.verbless
    (unended_sentence hname hmodal hpredicate) hblank hcontent hmargin
  obtain ⟨head, hclause⟩ := ofSentence?_modal hname hmodal hpredicate
  refine ⟨before.filterMap Proposition.ofSentence?, head, ?_, fun p hp => ?_⟩
  · rw [supplySubject_modal hname hmodal hdescription hpredicate, propositions, hsentences,
      List.filterMap_append, List.filterMap_cons_some hclause, List.filterMap_nil]
  · obtain ⟨sentence, hsentence, hp⟩ := List.mem_filterMap.1 hp
    exact predicate_of_verbless (hbefore sentence hsentence) hp

end ProseGuard.Comment
