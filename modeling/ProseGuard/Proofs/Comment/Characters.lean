import ProseGuard.Comment.Clause
import ProseGuard.Proofs.Text.Words

/-!
# Characters of a comment

What is read from a comment is made of its characters. Main statement: `mem_of_mem_predicate`, by
which a predicate brings in nothing but blanks between words and the word "been".
-/

namespace ProseGuard.Comment

variable {text : Text} {c : Point}

/-- The pieces between the ends of sentences are parts of the text. -/
theorem mem_of_mem_sentencePieces {skipping : Bool} {piece : Text}
    (h : piece ∈ sentencePieces skipping text) (hc : c ∈ piece) : c ∈ text := by
  induction text generalizing skipping piece with
  | nil =>
      rw [sentencePieces, List.mem_singleton] at h
      rwa [h] at hc
  | cons d ds ih =>
      rw [sentencePieces] at h
      split at h
      · exact List.mem_cons_of_mem _ (ih h hc)
      · split at h
        · rcases List.mem_cons.1 h with rfl | h
          · exact absurd hc List.not_mem_nil
          · exact List.mem_cons_of_mem _ (ih h hc)
        · cases hpieces : sentencePieces false ds with
          | nil => exact absurd hpieces (sentencePieces_ne_nil false ds)
          | cons first rest =>
              have hparts : ∀ part ∈ first :: rest, c ∈ part → c ∈ ds := by
                intro part hpart
                exact ih (hpieces ▸ hpart)
              rw [hpieces] at h
              rcases List.mem_cons.1 h with rfl | h
              · rcases List.mem_cons.1 hc with rfl | hc
                · exact List.mem_cons_self
                · exact List.mem_cons_of_mem _ (hparts first List.mem_cons_self hc)
              · exact List.mem_cons_of_mem _ (hparts piece (List.mem_cons_of_mem _ h) hc)

/-- The sentences of a comment are parts of it. -/
theorem mem_of_mem_sentences {sentence : Text} (h : sentence ∈ sentences text)
    (hc : c ∈ sentence) : c ∈ text := by
  obtain ⟨piece, hpiece, rfl⟩ := List.mem_map.1 h
  exact mem_of_mem_sentencePieces (List.mem_filter.1 hpiece).1 (Text.trimWhere_subset _ _ hc)

/-- The words behind the verbs of a sentence are words of it, save "been". -/
theorem mem_of_mem_predicateWords {words : List Text} {word : Text}
    (h : word ∈ (Parts.ofWords words).predicateWords) : word = "been" ∨ word ∈ words := by
  have hpredicate : ∀ w ∈ (Parts.ofWords words).predicate, w ∈ words :=
    fun w hw => (List.dropWhile_sublist _).subset ((List.dropWhile_sublist _).subset hw)
  unfold Parts.predicateWords at h
  split at h
  · exact (List.mem_cons.1 h).imp_right (hpredicate word)
  · exact .inr (hpredicate word h)

/-- A predicate is made of characters of the comment, of spaces and of the word "been". -/
theorem mem_of_mem_predicate {p : Proposition} (hp : p ∈ propositions text)
    (hc : c ∈ p.predicate) : c ∈ text ∨ c ∈ (" been" : Text) := by
  obtain ⟨sentence, hsentence, hread⟩ := List.mem_filterMap.1 hp
  rw [Proposition.ofSentence?] at hread
  split at hread
  · exact nomatch hread
  · split at hread
    · rw [← Option.some.inj hread] at hc
      exact absurd hc List.not_mem_nil
    · rw [← Option.some.inj hread] at hc
      rcases Text.mem_join (Text.trimWhere_subset _ _ hc) with hc | ⟨word, hword, hc⟩
      · exact .inr (List.mem_cons.2 (.inl (List.mem_singleton.1 hc)))
      · rcases mem_of_mem_predicateWords hword with rfl | hword
        · exact .inr (List.mem_cons_of_mem _ hc)
        · have hpiece := (List.mem_filter.1 hword).1
          exact .inl (mem_of_mem_sentences hsentence (Text.mem_of_mem_splitWhere hpiece hc))

end ProseGuard.Comment
