import ProseGuard.Program.Basic
import ProseGuard.Text.Case
import ProseGuard.Text.Distance

/-!
# Elements

The things of a program that a comment can refer to, each with the words that prose uses for it
and the expression that denotes it. Two elements are the same if their kinds and structural keys
are, where a flag counts as a number.

Specification 3, code elements: `compose_expression` is `compose`; `type_element` and the like are
`typeElement`, `parameterElement`, `methodElement`, `staticMethodElement`, `fieldElement` and
`derivedElement`; the distance of an element from a text is `Element.distance`.
-/

namespace ProseGuard.Candidate

open Program (TypeDecl Method Field)

/-- The kinds of elements. -/
inductive Kind where
  | type
  | parameter
  | method
  | staticMethod
  | field
  | derived
deriving DecidableEq

/-- The words for the kinds. -/
def kindWords : List (Text × Kind) := [
  ("type", .type), ("parameter", .parameter), ("method", .method),
  ("static_method", .staticMethod), ("field", .field), ("derived", .derived)]

/-- The word for a kind. -/
def Kind.word : Kind → Text
  | type => "type"
  | parameter => "parameter"
  | method => "method"
  | staticMethod => "static_method"
  | field => "field"
  | derived => "derived"

/-- A structural key: an atom, or a tuple built from its end. A list or a table, which may change
while an element is in use, can stand in a key but has no fixed value. -/
inductive Key where
  | text (value : Text)
  | number (value : Int)
  | flag (value : Bool)
  | absent
  | unit
  | cons (first rest : Key)
  | list (items : Key)
  | table (entries : Key)
deriving DecidableEq

/-- The key that is a tuple of keys. -/
def Key.tuple (parts : List Key) : Key :=
  parts.foldr .cons .unit

/-- The key that is a tuple of texts. -/
def Key.texts (parts : List Text) : Key :=
  .tuple (parts.map .text)

/-- Whether the key has a fixed value, by which elements can be looked up. -/
def Key.isFixed : Key → Bool
  | .cons first rest => first.isFixed && rest.isFixed
  | .list _ | .table _ => false
  | _ => true

/-- The key with a number for every flag: one if it is set, else zero. -/
def Key.canonical : Key → Key
  | .flag value => .number (if value then 1 else 0)
  | .cons first rest => .cons first.canonical rest.canonical
  | key => key

/-- What an element was made from. -/
inductive Origin where
  | type (type : TypeDecl)
  | method (method : Method)
  | field (field : Field)
deriving DecidableEq

/-- A thing that a comment can refer to. -/
structure Element where
  kind : Kind
  key : Key
  /-- The words that prose uses for it. -/
  identifiers : List Text
  /-- The expression that denotes it. -/
  expression : Text
  /-- The type of the value that the expression denotes; none for a derived element. -/
  valueType : Option Text := none
  /-- The place of a parameter. -/
  index : Option Int := none
  origin : Option Origin := none
deriving DecidableEq

/-- The distance at which an element without words stands from every text. -/
def farthest : Nat := 0x7FFFFFFFFFFFFFFF

namespace Element

/-- What elements are told apart by. -/
def identity (e : Element) : Kind × Key :=
  (e.kind, e.key.canonical)

/-- Whether the element has a word that is not empty. -/
def isNamed (e : Element) : Bool :=
  e.identifiers.any fun word => word ≠ ""

/-- The edit distance from a text to the nearest of the element's words, case aside. -/
def distance (text : Text) (e : Element) : Nat :=
  let target := Text.lower text
  (e.identifiers.map fun word => Text.distance (Text.lower word) target).min?.getD farthest

end Element

/-- The expression of an element of the given kind: the receiver for a type, a call or an access
on the receiver for members, and the name itself for the rest. -/
def compose (kind : Kind) (name receiver : Text) (args : List Text) : Text :=
  match kind with
  | .type => receiver
  | .method | .staticMethod => receiver ++ "." ++ name ++ "(" ++ Text.join ", " args ++ ")"
  | .field => receiver ++ "." ++ name
  | .parameter | .derived => name

/-- Adds a word to an ascending list without repetition. -/
def insertWord (word : Text) : List Text → List Text
  | [] => [word]
  | w :: ws => if word < w then word :: w :: ws else if word = w then w :: ws else
    w :: insertWord word ws

/-- The words of a list, ascending and without repetition. -/
def wordSet (words : List Text) : List Text :=
  words.foldr insertWord []

/-- Adding a word adds just that word. -/
theorem mem_insertWord {word w : Text} {ws : List Text} :
    w ∈ insertWord word ws ↔ w = word ∨ w ∈ ws := by
  induction ws with
  | nil => simp [insertWord]
  | cons v vs ih =>
    simp only [insertWord]
    split
    · simp
    · split
      · next h => simp [h]
      · simp only [List.mem_cons, ih]
        exact or_left_comm

/-- A word is in the set exactly when it is in the list. -/
theorem mem_wordSet {w : Text} {ws : List Text} : w ∈ wordSet ws ↔ w ∈ ws := by
  induction ws with
  | nil => simp [wordSet]
  | cons v vs ih =>
    rw [wordSet, List.foldr_cons, mem_insertWord, List.mem_cons]
    exact or_congr_right ih

/-- The element for a type, denoted by the receiver. -/
def typeElement (t : TypeDecl) (receiver : Text) : Element where
  kind := .type
  key := .texts [t.name]
  identifiers := Program.typeWords t.name
  expression := compose .type "" receiver []
  valueType := some t.name
  origin := some (.type t)

/-- The element for a parameter, shown by its name or as an argument place. -/
def parameterElement (name : Text) (index : Int) (type : Text) (words : List Text)
    (byName : Bool) : Element where
  kind := .parameter
  key := .tuple [.number index, .text type]
  identifiers := name :: (wordSet words).filter (· ≠ name)
  expression := compose .parameter (if byName then name else "args[" ++ toString index ++ "]") "" []
  valueType := some type
  index := some index

/-- The element for a call of a method on a receiver. -/
def methodElement (m : Method) (receiver : Text) (args : List Text) : Element where
  kind := .method
  key := .tuple [.text m.signature, .text receiver, .texts args]
  identifiers := [m.name]
  expression := compose .method m.name receiver args
  valueType := some m.returnType
  origin := some (.method m)

/-- The element for a call of a static method on the type that declares it. -/
def staticMethodElement (m : Method) (args : List Text) : Element where
  kind := .staticMethod
  key := .tuple [.text m.signature, .texts args]
  identifiers := [m.name]
  expression := compose .staticMethod m.name (Program.simpleName m.declaringType) args
  valueType := some m.returnType
  origin := some (.method m)

/-- The element for a field of a receiver. -/
def fieldElement (f : Field) (receiver : Text) : Element where
  kind := .field
  key := .texts [f.declaringType, f.name, receiver]
  identifiers := [f.name]
  expression := compose .field f.name receiver []
  valueType := some f.type
  origin := some (.field f)

/-- The element for an expression that no declaration stands behind. -/
def derivedElement (expression identifier : Text) : Element where
  kind := .derived
  key := .texts [expression]
  identifiers := [identifier]
  expression := compose .derived expression "" []

end ProseGuard.Candidate
