import ProseGuard.Text.Alphanumeric
import ProseGuard.Text.Blank
import ProseGuard.Text.Integer
import ProseGuard.Text.Search

/-!
# Literal predicates

Predicates that say how a value compares with a literal, or of which type it is. Such a predicate
becomes a suffix that turns the expression of its subject into a condition. Words of a catalogue
are looked for first, negated ones before plain ones, then numbers, then two fixed phrases.
Main statements: `reading_of_negatedWord`, `reading_of_nonWord` and `reading_of_plainWord`, which
say which rule decides.

Specification 4.4, step 1 of the predicate matcher: `simple_match` is `Suffix.ofPredicate?`.
-/

namespace ProseGuard.Guard

open Text (after? firstMatch isWordChar isAsciiDigit)

/-- The relations that conditions compare with. -/
inductive Relation where
  | le
  | ge
  | lt
  | gt
  | ne
  | eq
deriving DecidableEq

/-- The operator for a relation. -/
def Relation.symbol : Relation → Text
  | le => "<="
  | ge => ">="
  | lt => "<"
  | gt => ">"
  | ne => "!="
  | eq => "=="

/-- The relation that holds exactly where the given one does not. -/
def Relation.negation : Relation → Relation
  | le => gt
  | ge => lt
  | lt => ge
  | gt => le
  | ne => eq
  | eq => ne

/-- What a value is compared with. -/
inductive Operand where
  | true
  | false
  | null
  | number (value : Int)
deriving DecidableEq

/-- The text of an operand. -/
def Operand.text : Operand → Text
  | true => "true"
  | false => "false"
  | null => "null"
  | number value => toString value

/-- What a predicate adds to the expression of its subject. -/
inductive Suffix where
  | compare (relation : Relation) (operand : Operand)
  | instanceOf (type : Text)
deriving DecidableEq

/-- The text of a suffix. -/
def Suffix.text : Suffix → Text
  | compare relation operand => relation.symbol ++ operand.text
  | instanceOf type => " instanceof " ++ type

/-- What the words of the catalogue say of a value. -/
def catalogue : List (Text × Relation × Operand) := [
  ("true", .eq, .true), ("false", .eq, .false), ("null", .eq, .null), ("zero", .eq, .number 0),
  ("strictly positive", .gt, .number 0), ("positive", .gt, .number 0),
  ("strictly negative", .lt, .number 0), ("negative", .lt, .number 0)]

/-- The words of the catalogue that "non" can stand before. -/
def nonCatalogue : List (Text × Relation × Operand) := [
  ("null", .eq, .null), ("zero", .eq, .number 0), ("positive", .gt, .number 0),
  ("negative", .lt, .number 0)]

/-- The comparison of the catalogue word that a text starts with and that ends at the end of a
word. -/
def wordAt (words : List (Text × Relation × Operand)) (text : Text) :
    Option (Relation × Operand) :=
  words.findSome? fun (word, meaning) =>
    match after? word text with
    | some rest => if rest.head?.any isWordChar then none else some meaning
    | none => none

/-- Reads "not" or an unequal sign and a catalogue word. -/
def negatedWord (_before text : Text) : Option (Relation × Operand) :=
  match after? "not " text with
  | some rest => wordAt catalogue rest
  | none =>
    match after? "!= " text with
    | some rest => wordAt catalogue rest
    | none => (after? "!=" text).bind (wordAt catalogue)

/-- Reads a word of the shorter catalogue behind "non", joined to it or with a hyphen. -/
def nonWord (before text : Text) : Option (Relation × Operand) :=
  if before.head?.any isWordChar then none
  else match after? "non-" text with
    | some rest => wordAt nonCatalogue rest
    | none => (after? "non" text).bind (wordAt nonCatalogue)

/-- Reads a catalogue word that no word character or hyphen stands before. -/
def plainWord (before text : Text) : Option (Relation × Operand) :=
  if before.head?.any fun c => isWordChar c || c = '-' then none else wordAt catalogue text

/-- The phrases for relations, the longest first. -/
def verbalRelations : List (Text × Relation) := [
  ("greater than or equal to", .ge), ("less than or equal to", .le), ("greater than", .gt),
  ("less than", .lt), ("equal to", .eq)]

/-- The text with the phrases for relations replaced by their operators. -/
def withOperators (text : Text) : Text :=
  verbalRelations.foldl
    (fun text (phrase, relation) => Text.replaceAll phrase relation.symbol text) text

/-- The relation whose operator ends a text, given last character first; the equal sign alone
says the same as a double one, and so does no operator at all. -/
def relationBefore (before : Text) : Relation :=
  match (if before.head? = some (.char ' ') then before.tail else before) with
  | .char '=' :: .char '<' :: _ => .le
  | .char '=' :: .char '>' :: _ => .ge
  | .char '=' :: .char '!' :: _ => .ne
  | .char '<' :: _ => .lt
  | .char '>' :: _ => .gt
  | _ => .eq

/-- A number as a predicate writes it. -/
structure Literal where
  relation : Relation
  negative : Bool
  digits : Text

/-- Whether a character glues a number to what stands beside it. -/
def gluesNumber (c : Point) : Bool :=
  isWordChar c || c = '.'

/-- Reads a number in digits that stands on its own, with the relation before it. -/
def literal (before text : Text) : Option Literal :=
  if before.head?.any gluesNumber then none
  else
    let negative := text.head? = some (.char '-')
    let unsigned := if negative then text.tail else text
    let digits := unsigned.takeWhile isAsciiDigit
    if digits.isEmpty || (unsigned.drop digits.length).head?.any gluesNumber then none
    else some ⟨relationBefore before, negative, digits⟩

/-- The largest number of digits that a number may be written with. -/
def maxDigits : Nat := 4300

/-- The least integer of 32 bits. -/
def leastInteger : Int := -2147483648

/-- The greatest integer of 32 bits. -/
def greatestInteger : Int := 2147483647

/-- The value of a literal, if it is an integer of 32 bits. -/
def Literal.value? (l : Literal) : Option Int :=
  let size : Int := Text.digitsValue l.digits
  let value := if l.negative then -size else size
  if l.digits.length ≤ maxDigits ∧ leastInteger ≤ value ∧ value ≤ greatestInteger then some value
  else none

/-- What a predicate says as a literal one. -/
inductive Reading where
  | suffix (suffix : Suffix)
  /-- The predicate compares with a number that is out of range. -/
  | outOfRange
  | other
deriving DecidableEq

/-- The reading of a comparison that is denied. -/
def Reading.denied (meaning : Relation × Operand) : Reading :=
  .suffix (.compare meaning.1.negation meaning.2)

/-- The reading of a comparison. -/
def Reading.stated (meaning : Relation × Operand) : Reading :=
  .suffix (.compare meaning.1 meaning.2)

/-- The reading of a number. -/
def Reading.ofLiteral (l : Literal) : Reading :=
  match l.value? with
  | some value => .suffix (.compare l.relation (.number value))
  | none => .outOfRange

/-- Reads the type behind "instanceof", up to the end of the line. -/
def instanceType (_before text : Text) : Option Text :=
  (after? "instanceof " text).map fun rest => rest.takeWhile fun c => c ≠ '\n'

/-- The reading of a predicate by the rules for numbers and fixed phrases. -/
def readingWithoutWords (text : Text) : Reading :=
  match firstMatch literal [] (withOperators text) with
  | some l => .ofLiteral l
  | none =>
    if text = "been set" then .suffix (.compare .ne .null)
    else match firstMatch instanceType [] text with
      | some type => .suffix (.instanceOf type)
      | none => .other

/-- The reading of a predicate without blanks around it. -/
def readingOf (text : Text) : Reading :=
  match firstMatch negatedWord [] text with
  | some meaning => .denied meaning
  | none =>
    match firstMatch nonWord [] text with
    | some meaning => .denied meaning
    | none =>
      match firstMatch plainWord [] text with
      | some meaning => .stated meaning
      | none => readingWithoutWords text

/-- What a predicate says as a literal one. -/
def reading (predicate : Text) : Reading :=
  readingOf (Text.trimmed predicate)

/-- The suffix of a literal predicate. -/
def Suffix.ofPredicate? (predicate : Text) : Option Suffix :=
  match reading predicate with
  | .suffix suffix => some suffix
  | _ => none

/-- A negated catalogue word decides before all else. -/
theorem reading_of_negatedWord {text : Text} {meaning : Relation × Operand}
    (h : firstMatch negatedWord [] text = some meaning) : readingOf text = .denied meaning := by
  rw [readingOf, h]

/-- Without one, a word behind "non" decides. -/
theorem reading_of_nonWord {text : Text} {meaning : Relation × Operand}
    (hnot : firstMatch negatedWord [] text = none)
    (h : firstMatch nonWord [] text = some meaning) : readingOf text = .denied meaning := by
  rw [readingOf, hnot]
  simp only [h]

/-- Without either, a plain word decides. -/
theorem reading_of_plainWord {text : Text} {meaning : Relation × Operand}
    (hnot : firstMatch negatedWord [] text = none) (hnon : firstMatch nonWord [] text = none)
    (h : firstMatch plainWord [] text = some meaning) : readingOf text = .stated meaning := by
  rw [readingOf, hnot]
  simp only [hnon, h]

end ProseGuard.Guard
