import ProseGuard.Proofs.Comment.Clause

/-!
# Sentences behind a full stop

A text behind a full stop and a space begins a sentence, whatever stands before it. What stands
before it falls into the sentences that it has by itself, but for a full stop at its very end, which
becomes part of the last one (`exists_sentencePieces_append`). Main statement: `sentences_append`.
-/

namespace ProseGuard.Comment

open Text (isBlank trimMarks)

variable {c : Point} {cs : Text} {skipping : Bool}

/-- A blank behind the end of a sentence belongs to that end. -/
theorem sentencePieces_of_isBlank (h : isBlank c) :
    sentencePieces true (c :: cs) = sentencePieces true cs := by
  simp [sentencePieces, h]

/-- The end of a sentence closes a piece. -/
theorem sentencePieces_of_ends (hblank : (skipping && isBlank c) = false)
    (h : endsSentence c cs) : sentencePieces skipping (c :: cs) = [] :: sentencePieces true cs := by
  simp [sentencePieces, hblank, h]

/-- Any other character belongs to the first piece. -/
theorem sentencePieces_of_not_ends (hblank : (skipping && isBlank c) = false)
    (h : endsSentence c cs = false) {first : Text} {others : List Text}
    (hrest : sentencePieces false cs = first :: others) :
    sentencePieces skipping (c :: cs) = (c :: first) :: others := by
  simp [sentencePieces, hblank, h, hrest]

/-- No sentence ends within the text. -/
def Unended : Text → Prop
  | [] => True
  | c :: cs => endsSentence c cs = false ∧ Unended cs

/-- What holds no stop and no semicolon can stand before such a text. -/
theorem Unended.append {before text : Text} (hsemicolon : (';' : Point) ∉ before)
    (hstop : ('.' : Point) ∉ before) (htext : Unended text) : Unended (before ++ text) := by
  induction before with
  | nil => exact htext
  | cons c cs ih =>
      have hc := List.ne_of_not_mem_cons hsemicolon
      have hd := List.ne_of_not_mem_cons hstop
      exact ⟨by simp [endsSentence, hc.symm, hd.symm],
        ih (List.not_mem_of_not_mem_cons hsemicolon) (List.not_mem_of_not_mem_cons hstop)⟩

/-- A text within which no sentence ends is one piece. -/
theorem sentencePieces_of_unended {text : Text} (h : Unended text) :
    sentencePieces false text = [text] := by
  induction text with
  | nil => rfl
  | cons c cs ih => exact sentencePieces_of_not_ends rfl h.1 (ih h.2)

/-- Behind the end of a sentence, nothing but blanks is passed over. -/
theorem sentencePieces_true {text : Text} (h : ∀ c ∈ text.head?, isBlank c = false) :
    sentencePieces true text = sentencePieces false text := by
  cases text with
  | nil => rfl
  | cons c cs => simp [sentencePieces, h c rfl]

/-- The piece is another one, possibly with a full stop behind it. -/
def UpToStop (piece other : Text) : Prop :=
  piece = other ∨ piece = other ++ "."

/-- What follows decides alike whether a sentence ends, unless it makes a stop the last character no
more. -/
theorem endsSentence_append (h : ¬(cs = [] ∧ c = ('.' : Point))) (rest : Text) :
    endsSentence c (cs ++ rest) = endsSentence c cs := by
  cases cs with
  | nil =>
      have hstop : c ≠ ('.' : Point) := fun hc => h ⟨rfl, hc⟩
      simp [endsSentence, hstop]
  | cons d ds => rfl

/-- A full stop and a space end a sentence. -/
theorem sentencePieces_stop (skipping : Bool) (rest : Text) :
    sentencePieces skipping (". " ++ rest) = [] :: sentencePieces true rest := by
  have hblank : (skipping && isBlank '.') = false := by
    cases skipping <;> decide
  have hspace : isBlank ' ' := by decide
  exact (sentencePieces_of_ends hblank rfl).trans
    (congrArg ([] :: ·) (sentencePieces_of_isBlank hspace))

/-- The pieces of a text that goes on behind a full stop and a space are its own, up to a full stop
at the end, and then those of what follows. -/
theorem exists_sentencePieces_append (skipping : Bool) (text rest : Text) :
    ∃ first others first' others', sentencePieces skipping text = first :: others ∧
      sentencePieces skipping (text ++ (". " ++ rest)) =
        first' :: (others' ++ sentencePieces true rest) ∧
      UpToStop first' first ∧ ∀ piece ∈ others', ∃ other ∈ others, UpToStop piece other := by
  induction text generalizing skipping with
  | nil =>
      exact ⟨[], [], [], [], by simp [sentencePieces], sentencePieces_stop skipping rest, .inl rfl,
        fun _ hpiece => absurd hpiece List.not_mem_nil⟩
  | cons c cs ih =>
      -- the first pieces go along with each other, as `c` may still be put before both
      by_cases hblank : (skipping && isBlank c) = true
      · obtain ⟨rfl, hblank⟩ := Bool.and_eq_true_iff.1 hblank
        rw [List.cons_append, sentencePieces_of_isBlank hblank, sentencePieces_of_isBlank hblank]
        exact ih true
      · rw [Bool.not_eq_true] at hblank
        by_cases hlast : cs = [] ∧ c = ('.' : Point)
        · -- alone the stop ends a sentence, but before another stop it does not
          obtain ⟨rfl, rfl⟩ := hlast
          exact ⟨[], [[]], ".", [], sentencePieces_of_ends hblank rfl,
            sentencePieces_of_not_ends hblank rfl (sentencePieces_stop false rest), .inr rfl,
            fun _ hpiece => absurd hpiece List.not_mem_nil⟩
        · have hends := endsSentence_append hlast (". " ++ rest)
          by_cases hend : endsSentence c cs = true
          · obtain ⟨first, others, first', others', htext, hboth, hfirst, hothers⟩ := ih true
            refine ⟨[], first :: others, [], first' :: others', ?_, ?_, .inl rfl, ?_⟩
            · rw [sentencePieces_of_ends hblank hend, htext]
            · rw [List.cons_append, sentencePieces_of_ends hblank (hends.trans hend), hboth,
                List.cons_append]
            · intro piece hpiece
              rcases List.mem_cons.1 hpiece with rfl | hpiece
              · exact ⟨first, List.mem_cons_self, hfirst⟩
              · obtain ⟨other, hother, hstop⟩ := hothers piece hpiece
                exact ⟨other, List.mem_cons_of_mem _ hother, hstop⟩
          · rw [Bool.not_eq_true] at hend
            obtain ⟨first, others, first', others', htext, hboth, hfirst, hothers⟩ := ih false
            refine ⟨c :: first, others, c :: first', others', ?_, ?_, ?_, hothers⟩
            · exact sentencePieces_of_not_ends hblank hend htext
            · exact sentencePieces_of_not_ends hblank (hends.trans hend) hboth
            · exact hfirst.imp (congrArg (c :: ·)) (congrArg (c :: ·))

/-- A full stop makes no noise of a piece that is none. -/
theorem UpToStop.not_noise {piece other : Text} (h : UpToStop piece other)
    (hpiece : trimMarks sentenceNoise piece ≠ "") : trimMarks sentenceNoise other ≠ "" := by
  rcases h with rfl | rfl
  · exact hpiece
  · have hstop : ∀ c ∈ (("." : String) : Text), sentenceNoise.contains c := by decide
    rwa [trimMarks, Text.trimWhere_append_right hstop] at hpiece

/-- A full stop makes no verb. -/
theorem UpToStop.verbless {piece other : Text} (h : UpToStop piece other)
    (hother : Verbless other) : Verbless piece := by
  rcases h with rfl | rfl
  · exact hother
  · have hstop : ∀ c ∈ (("." : String) : Text), isMargin c := by decide
    exact (verbless_append_right hstop other).2 hother

/-- A sentence behind a full stop is the last of the text, and those before it hold no verb if the
text before the stop has no sentence with a verb. -/
theorem sentences_append {text sentence : Text} (htext : ∀ s ∈ sentences text, Verbless s)
    (hunended : Unended sentence) (hblank : ∀ c ∈ sentence.head?, isBlank c = false)
    (hcontent : trimMarks sentenceNoise sentence ≠ "")
    (hmargin : trimMarks sentenceMargin sentence = sentence) :
    ∃ before, sentences (text ++ (". " ++ sentence)) = before ++ [sentence] ∧
      ∀ s ∈ before, Verbless s := by
  obtain ⟨first, others, first', others', hpieces, hboth, hfirst, hothers⟩ :=
    exists_sentencePieces_append false text sentence
  rw [sentencePieces_true hblank, sentencePieces_of_unended hunended] at hboth
  refine ⟨((first' :: others').filter fun piece => trimMarks sentenceNoise piece ≠ "").map
    (trimMarks sentenceMargin), ?_, fun s hs => ?_⟩
  · have hlast : [sentence].filter (fun piece => trimMarks sentenceNoise piece ≠ "") = [sentence] :=
      List.filter_cons_of_pos (decide_eq_true hcontent)
    rw [sentences, hboth, ← List.cons_append, List.filter_append, hlast, List.map_append,
      List.map_singleton, hmargin]
  · obtain ⟨piece, hpiece, rfl⟩ := List.mem_map.1 hs
    obtain ⟨hpiece, hnoise⟩ := List.mem_filter.1 hpiece
    obtain ⟨other, hother, hstop⟩ : ∃ other ∈ first :: others, UpToStop piece other := by
      rcases List.mem_cons.1 hpiece with rfl | hpiece
      · exact ⟨first, List.mem_cons_self, hfirst⟩
      · obtain ⟨other, hother, hstop⟩ := hothers piece hpiece
        exact ⟨other, List.mem_cons_of_mem _ hother, hstop⟩
    have hsentence : trimMarks sentenceMargin other ∈ sentences text := by
      refine List.mem_map_of_mem (List.mem_filter.2 ⟨hpieces ▸ hother, ?_⟩)
      exact decide_eq_true (hstop.not_noise (of_decide_eq_true hnoise))
    rw [verbless_trimMarks isMargin_of_mem_sentenceMargin]
    exact hstop.verbless
      ((verbless_trimMarks isMargin_of_mem_sentenceMargin other).1 (htext _ hsentence))

end ProseGuard.Comment
