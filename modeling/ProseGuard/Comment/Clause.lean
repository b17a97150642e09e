import ProseGuard.Comment.Sentence
import ProseGuard.Text.Case

/-!
# Clauses

A sentence is cut at its first verb: before it stands the subject, and behind the group of verbs
and negations that it opens stands the predicate. What a clause says is a proposition: that
something holds of its subject, or does not.

Specification 4.6, the pattern-based source: `parse_sentence` is `Proposition.ofSentence?`,
`noun_phrase_head` is `nounPhraseHead`, and `parse` is `propositions`.
-/

namespace ProseGuard.Comment

open Text (lower trimMarks)

/-- A subject with what is said of it. -/
structure Proposition where
  subject : Text
  predicate : Text
  negated : Bool := false
  /-- The word that heads the clause. -/
  head : Text := ""
deriving DecidableEq

/-- Copulas, modal and auxiliary verbs. -/
def verbs : List Text := [
  "is", "are", "be", "been", "being", "was", "were", "must", "should", "will", "would", "may",
  "might", "can", "could", "shall", "has", "have", "cannot", "can't", "shouldn't", "won't",
  "mustn't", "isn't", "aren't", "does", "do"]

/-- Verbs that hold a negation. -/
def negativeVerbs : List Text :=
  ["cannot", "can't", "shouldn't", "won't", "mustn't", "isn't", "aren't"]

/-- Words that negate. -/
def negations : List Text := ["not", "never"]

/-- Words that open a noun phrase. -/
def determiners : List Text :=
  ["the", "a", "an", "this", "that", "these", "those", "any", "each", "every", "some"]

/-- Words that close the first noun phrase of a text. -/
def prepositions : List Text := [
  "of", "in", "to", "for", "with", "from", "on", "at", "by", "into", "as", "that", "which",
  "who", "if", "when", "where", "or", "and"]

/-- The word without punctuation around it. -/
def bare (word : Text) : Text :=
  trimMarks ".,;:()\"'" word

/-- The word without punctuation around it, in lower case. -/
def folded (word : Text) : Text :=
  lower (bare word)

/-- Whether the word is a verb. -/
def isVerb (word : Text) : Bool :=
  verbs.contains (folded word)

/-- Whether the word negates. -/
def negates (word : Text) : Bool :=
  negations.contains (folded word) || negativeVerbs.contains (folded word)

/-- Whether the word may stand in a group of verbs. -/
def inVerbGroup (word : Text) : Bool :=
  isVerb word || negates word

/-- The last content word of the first noun phrase; `last` is the one met so far. -/
def nounHeadFrom (last : Option Text) : List Text → Option Text
  | [] => last
  | word :: words =>
    let content := bare word
    if content = "" then nounHeadFrom last words
    else if last.isSome && prepositions.contains (lower content) then last
    else if last.isNone && determiners.contains (lower content) then nounHeadFrom last words
    else nounHeadFrom (some content) words

/-- The head of the first noun phrase: the last word before a preposition, determiners at its
start left out. -/
def nounPhraseHead (words : List Text) : Text :=
  (nounHeadFrom none words).getD ""

/-- The words of a sentence, shared out. -/
structure Parts where
  subject : List Text
  verbGroup : List Text
  predicate : List Text

/-- Cuts a sentence at its first verb. -/
def Parts.ofWords (words : List Text) : Parts :=
  let rest := words.dropWhile fun word => !isVerb word
  { subject := words.takeWhile fun word => !isVerb word
    verbGroup := rest.takeWhile inVerbGroup
    predicate := rest.dropWhile inVerbGroup }

/-- Whether a group of verbs ends in "has been" or "have been". -/
def endsInPerfect (group : List Text) : Bool :=
  match group.reverse.map folded with
  | last :: verb :: _ => last = "been" && (verb = "has" || verb = "have")
  | _ => false

/-- The words of the predicate, led by "been" where the perfect has to stay recognisable. -/
def Parts.predicateWords (parts : Parts) : List Text :=
  if endsInPerfect parts.verbGroup then "been" :: parts.predicate else parts.predicate

/-- Whether the word, stripped of punctuation, says something of its own. -/
def isContent (word : Text) : Bool :=
  bare word ≠ "" && !(folded word = "been" || determiners.contains (folded word))

/-- The head of a clause: the first content word of the predicate, else the first verb. -/
def Parts.head (parts : Parts) : Text :=
  match parts.predicateWords.find? isContent with
  | some word => bare word
  | none => bare (parts.verbGroup.headD "")

/-- What a sentence says; nothing if it has no word. -/
def Proposition.ofSentence? (sentence : Text) : Option Proposition :=
  let words := Text.words sentence
  let parts := Parts.ofWords words
  if words.isEmpty then none
  else if parts.verbGroup.isEmpty then
    some {
      subject := trimMarks sentenceMargin sentence
      predicate := ""
      head := nounPhraseHead words }
  else
    some {
      subject := trimMarks sentenceMargin (Text.join " " parts.subject)
      predicate := trimMarks sentenceNoise (Text.join " " parts.predicateWords)
      negated := parts.verbGroup.any negates
      head := parts.head }

/-- What the sentences of a comment say. -/
def propositions (comment : Text) : List Proposition :=
  (sentences comment).filterMap Proposition.ofSentence?

end ProseGuard.Comment
