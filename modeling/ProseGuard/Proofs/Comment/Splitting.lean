import ProseGuard.Comment.Sentence
import ProseGuard.Proofs.Text.Words

/-!
# What sentences hold

The pieces between the ends of sentences hold no such end (`IsUnbroken.of_mem_sentencePieces`), and
what trimming and leaving out noise takes from them are blanks and marks alone
(`filter_trimMarks`). Main statement: `sentences_split`, by which splitting a comment loses nothing
of its substance and every sentence is one.
-/

namespace ProseGuard.Comment

open Text (isBlank trimMarks)

/-- The marks that may stand around a sentence or end it. -/
def sentenceMarks : Text := ",.;"

/-- Whether a character is neither a blank nor one of these marks. -/
def isSubstance (c : Point) : Bool :=
  !isBlank c && !sentenceMarks.contains c

/-- No sentence ends before the end of the text: it holds no semicolon and no full stop before a
blank. -/
structure IsUnbroken (text : Text) : Prop where
  no_semicolon : (';' : Point) ∉ text
  no_stop : ∀ c, isBlank c → ¬ [.char '.', c] <:+: text

/-- What splitting a comment yields. -/
structure IsSentence (text : Text) : Prop extends IsUnbroken text where
  substantial : ∃ c ∈ text, c ∉ sentenceNoise
  starts : ∀ c ∈ text.head?, c ∉ sentenceMargin
  ends : ∀ c ∈ text.getLast?, c ∉ sentenceMargin

variable {text : Text}

/-! ## Ends -/

/-- A part of a text breaks no more than the text does. -/
theorem IsUnbroken.of_part {part : Text} (h : IsUnbroken text) (hpart : part <:+: text) :
    IsUnbroken part where
  no_semicolon hmem := h.no_semicolon (hpart.subset hmem)
  no_stop c hc hstop := h.no_stop c hc (hstop.trans hpart)

/-- The first piece of a text begins with the text. -/
theorem prefix_of_sentencePieces {first : Text} {others : List Text}
    (h : sentencePieces false text = first :: others) : first <+: text := by
  induction text generalizing first others with
  | nil =>
      rw [sentencePieces, List.cons.injEq] at h
      exact h.1 ▸ List.nil_prefix
  | cons c cs ih =>
      rw [sentencePieces, Bool.false_and, if_neg Bool.false_ne_true] at h
      split at h
      · exact (List.cons.inj h).1 ▸ List.nil_prefix
      · cases hrest : sentencePieces false cs with
        | nil => exact absurd hrest (sentencePieces_ne_nil false cs)
        | cons piece pieces =>
            rw [hrest] at h
            rw [← (List.cons.inj h).1, List.prefix_cons_inj]
            exact ih hrest

/-- A character that ends no sentence may be put before the first piece behind it. -/
theorem IsUnbroken.cons {c : Point} {cs first : Text} (h : IsUnbroken first)
    (hfirst : first <+: cs) (hends : endsSentence c cs = false) : IsUnbroken (c :: first) := by
  rw [endsSentence, Bool.or_eq_false_iff, decide_eq_false_iff_not] at hends
  refine ⟨fun hmem => ?_, fun d hd hstop => ?_⟩
  · rcases List.mem_cons.1 hmem with heq | hmem
    · exact hends.1 heq.symm
    · exact h.no_semicolon hmem
  · rcases List.infix_cons_iff.1 hstop with hstop | hstop
    · -- the stop would be `c` itself, and the blank would follow it in the text
      obtain ⟨rfl, hblank⟩ := List.cons_prefix_cons.1 hstop
      obtain ⟨rest, rfl⟩ := hblank.trans hfirst
      simp [hd] at hends
    · exact h.no_stop d hd hstop

/-- No sentence ends within a piece. -/
theorem IsUnbroken.of_mem_sentencePieces {skipping : Bool} {piece : Text}
    (h : piece ∈ sentencePieces skipping text) : IsUnbroken piece := by
  have hempty : IsUnbroken [] :=
    ⟨List.not_mem_nil, fun c _ h => List.cons_ne_nil _ _ (List.infix_nil.1 h)⟩
  induction text generalizing skipping piece with
  | nil => exact List.mem_singleton.1 h ▸ hempty
  | cons c cs ih =>
      rw [sentencePieces] at h
      split at h
      · exact ih h
      · split at h
        · rcases List.mem_cons.1 h with rfl | h
          · exact hempty
          · exact ih h
        · next hends =>
            cases hrest : sentencePieces false cs with
            | nil => exact absurd hrest (sentencePieces_ne_nil false cs)
            | cons first others =>
                rw [hrest] at h
                rcases List.mem_cons.1 h with rfl | h
                · have hfirst : IsUnbroken first := ih (hrest ▸ List.mem_cons_self)
                  exact hfirst.cons (prefix_of_sentencePieces hrest) (Bool.eq_false_iff.2 hends)
                · exact ih (hrest ▸ List.mem_cons_of_mem first h)

/-! ## Substance -/

/-- Marks are no substance. -/
theorem isSubstance_of_mem_sentenceNoise : ∀ c ∈ sentenceNoise, isSubstance c = false := by
  decide

/-- Trimming noise loses no substance. -/
theorem filter_trimMarks {marks : Text} (h : marks ⊆ sentenceNoise) (text : Text) :
    (trimMarks marks text).filter isSubstance = text.filter isSubstance := by
  obtain ⟨left, right, htext, hleft, hright⟩ := Text.exists_margins marks.contains text
  have hnone : ∀ margin : Text, (∀ c ∈ margin, marks.contains c) →
      margin.filter isSubstance = [] := by
    intro margin hmargin
    refine List.filter_eq_nil_iff.2 fun c hc => ?_
    have hmark : c ∈ marks := by simpa using hmargin c hc
    simp [isSubstance_of_mem_sentenceNoise c (h hmark)]
  conv_rhs => rw [htext]
  rw [List.filter_append, List.filter_append, hnone left hleft, hnone right hright,
    List.append_nil, List.nil_append, trimMarks]

/-- A text that is more than noise is more than noise when trimmed. -/
theorem substantial_trimMarks {text : Text} (h : trimMarks sentenceNoise text ≠ "") :
    ∃ c ∈ trimMarks sentenceMargin text, c ∉ sentenceNoise := by
  obtain ⟨c, hc, hnoise⟩ : ∃ c ∈ text, c ∉ sentenceNoise := by
    by_contra hnone
    refine h (Text.trimWhere_eq_nil_iff.2 fun c hc => ?_)
    by_contra hmark
    exact hnone ⟨c, hc, by simpa using hmark⟩
  obtain ⟨left, right, htext, hleft, hright⟩ := Text.exists_margins sentenceMargin.contains text
  have hmargin : ∀ d, sentenceMargin.contains d → d ∈ sentenceNoise := by
    have hsub : sentenceMargin ⊆ sentenceNoise := by decide
    exact fun d hd => hsub (by simpa using hd)
  refine ⟨c, ?_, hnoise⟩
  rw [htext, List.append_assoc, List.mem_append, List.mem_append] at hc
  rcases hc with hc | hc | hc
  · exact absurd (hmargin c (hleft c hc)) hnoise
  · exact hc
  · exact absurd (hmargin c (hright c hc)) hnoise

/-- The pieces that are kept hold the substance of all of them. -/
theorem filter_flatten_sentences (pieces : List Text) :
    (((pieces.filter fun piece => trimMarks sentenceNoise piece ≠ "").map
      (trimMarks sentenceMargin)).flatten).filter isSubstance =
        pieces.flatten.filter isSubstance := by
  have hmargin : sentenceMargin ⊆ sentenceNoise := by decide
  induction pieces with
  | nil => rfl
  | cons piece pieces ih =>
      by_cases hnoise : trimMarks sentenceNoise piece = ""
      · have hpiece : piece.filter isSubstance = [] := by
          rw [← filter_trimMarks (List.Subset.refl sentenceNoise), hnoise]
          rfl
        rw [List.filter_cons, if_neg (by simp [hnoise]), ih, List.flatten_cons,
          List.filter_append, hpiece, List.nil_append]
      · rw [List.filter_cons, if_pos (decide_eq_true hnoise), List.map_cons, List.flatten_cons,
          List.flatten_cons, List.filter_append, List.filter_append, ih,
          filter_trimMarks hmargin]

/-- Substance is neither a blank nor a mark that ends a sentence. -/
theorem filter_flatten_sentencePieces (skipping : Bool) (text : Text) :
    (sentencePieces skipping text).flatten.filter isSubstance = text.filter isSubstance := by
  have hfiner : ∀ chars : Text, chars.filter isSubstance =
      (chars.filter fun c => !isBlank c && c ≠ ';' && c ≠ '.').filter isSubstance := by
    intro chars
    rw [List.filter_filter]
    refine List.filter_congr fun c _ => ?_
    by_cases hc : c ∈ sentenceMarks
    · simp [isSubstance, hc]
    · have hmarks : c ≠ ';' ∧ c ≠ '.' :=
        ⟨fun h => hc (h ▸ by decide), fun h => hc (h ▸ by decide)⟩
      cases hblank : isBlank c <;> simp [isSubstance, hblank, hmarks]
  rw [hfiner, flatten_sentencePieces, ← hfiner]

/-- The sentences of a comment hold its substance, in order and once, and each of them is without
ends, not only noise, and trimmed. -/
theorem sentences_split (comment : Text) :
    (sentences comment).flatten.filter isSubstance = comment.filter isSubstance ∧
      ∀ sentence ∈ sentences comment, IsSentence sentence := by
  constructor
  · rw [sentences, filter_flatten_sentences, filter_flatten_sentencePieces]
  · intro sentence hsentence
    obtain ⟨piece, hpiece, rfl⟩ := List.mem_map.1 hsentence
    obtain ⟨hpiece, hnoise⟩ := List.mem_filter.1 hpiece
    obtain ⟨left, right, htext, -⟩ := Text.exists_margins sentenceMargin.contains piece
    have hpart : trimMarks sentenceMargin piece <:+: piece := ⟨left, right, htext.symm⟩
    have hmarks : ∀ c, sentenceMargin.contains c = false → c ∉ sentenceMargin :=
      fun c hc => by simpa using hc
    refine { (IsUnbroken.of_mem_sentencePieces hpiece).of_part hpart with
      substantial := substantial_trimMarks (of_decide_eq_true hnoise)
      starts := fun c hc => hmarks c (Text.not_marks_of_mem_head? c hc)
      ends := fun c hc => hmarks c (Text.not_marks_of_mem_getLast? c hc) }

/-- A comment falls into two sentences, of which the second begins behind a comma. -/
theorem sentences_split_bytes :
    sentences "the size in bytes; , it is set." = ["the size in bytes", "it is set"] ∧
      IsSentence "the size in bytes" ∧ IsSentence "it is set" := by
  have hsentences : sentences "the size in bytes; , it is set." =
      ["the size in bytes", "it is set"] := by
    decide
  have hall := (sentences_split "the size in bytes; , it is set.").2
  rw [hsentences] at hall
  exact ⟨hsentences, hall _ (by decide), hall _ (by decide)⟩

end ProseGuard.Comment
