import ProseGuard.Text.Blank

/-!
# Sentences

A comment falls into sentences at semicolons and at full stops before a blank or the end; the
blanks behind such a mark belong to it. Main statement: `flatten_sentencePieces`, which says what
the cuts leave out.

Specification 4.6, the pattern-based source: `split_sentences` is `sentences`.
-/

namespace ProseGuard.Comment

open Text (isBlank)

/-- Whether a character ends a sentence that `rest` follows. -/
def endsSentence (c : Point) (rest : Text) : Bool :=
  c = ';' || (c = '.' && rest.head?.all isBlank)

/-- The pieces of a text between the ends of sentences; with `skipping`, blanks at its start
belong to the end before it. -/
def sentencePieces (skipping : Bool) : Text → List Text
  | [] => [[]]
  | c :: cs =>
    if skipping && isBlank c then sentencePieces true cs
    else if endsSentence c cs then [] :: sentencePieces true cs
    else match sentencePieces false cs with
      | [] => [[c]]
      | piece :: pieces => (c :: piece) :: pieces

/-- The marks that are trimmed off a sentence. -/
def sentenceMargin : Text := " ,"

/-- The marks of which a sentence cannot consist alone. -/
def sentenceNoise : Text := " ,.;"

/-- The sentences of a comment. -/
def sentences (comment : Text) : List Text :=
  ((sentencePieces false comment).filter fun piece => Text.trimMarks sentenceNoise piece ≠ "").map
    (Text.trimMarks sentenceMargin)

/-- There is always a first piece. -/
theorem sentencePieces_ne_nil (skipping : Bool) (text : Text) :
    sentencePieces skipping text ≠ [] := by
  induction text generalizing skipping with
  | nil => simp [sentencePieces]
  | cons c cs ih =>
    simp only [sentencePieces]
    split
    · exact ih true
    · split
      · simp
      · split <;> simp

/-- Apart from blanks and the two marks that end sentences, the pieces hold the text. -/
theorem flatten_sentencePieces (skipping : Bool) (text : Text) :
    ((sentencePieces skipping text).flatten.filter fun c => !isBlank c && c ≠ ';' && c ≠ '.') =
      text.filter fun c => !isBlank c && c ≠ ';' && c ≠ '.' := by
  induction text generalizing skipping with
  | nil => rfl
  | cons c cs ih =>
    simp only [sentencePieces]
    split
    · next h =>
      have : isBlank c = true := by simp_all
      rw [ih true, List.filter_cons]
      simp [this]
    · split
      · next h =>
        have : c = ';' ∨ c = '.' := by
          simp only [endsSentence, Bool.or_eq_true, Bool.and_eq_true, decide_eq_true_eq] at h
          exact h.imp_right And.left
        have hdrop : (!isBlank c && decide (c ≠ ';') && decide (c ≠ '.')) = false := by
          rcases this with rfl | rfl <;> simp
        rw [List.filter_cons, hdrop]
        simpa using ih true
      · have h := ih false
        cases hp : sentencePieces false cs with
        | nil => exact absurd hp (sentencePieces_ne_nil false cs)
        | cons piece pieces =>
          rw [hp, List.flatten_cons] at h
          rw [List.flatten_cons, List.cons_append, List.filter_cons, List.filter_cons, h]

end ProseGuard.Comment
