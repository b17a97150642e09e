import ProseGuard.Json.Binary64
import ProseGuard.Text.Basic

/-!
# JSON values

Values with the members of objects in order. An integer is kept apart from a number with a
fraction or an exponent, which is of the binary format. Main statement: `lookup_put`, which says
that the last value written under a key is the one found there.
-/

namespace ProseGuard

/-- A JSON value. -/
inductive Json where
  | null
  | bool (value : Bool)
  | integer (value : Int)
  | number (value : Json.Binary64)
  | string (value : Text)
  | array (items : List Json)
  | object (members : List (Text × Json))

namespace Json

/-- The members of an object. -/
abbrev Members := List (Text × Json)

/-- Sets the value under a key: in place if the key is there, else at the end. -/
def put (members : Members) (key : Text) (value : Json) : Members :=
  match members with
  | [] => [(key, value)]
  | (k, v) :: rest => if k = key then (key, value) :: rest else (k, v) :: put rest key value

/-- The members in the order of their first occurrence, each with its last value. -/
def merged (members : Members) : Members :=
  members.foldl (fun object member => put object member.1 member.2) []

/-- The value put under a key is found there, and no other key is touched. -/
theorem lookup_put (members : Members) (key other : Text) (value : Json) :
    (put members key value).lookup other =
      if other = key then some value else members.lookup other := by
  induction members with
  | nil =>
    by_cases h : other = key
    · simp [put, h]
    · have : (other == key) = false := by simpa using h
      simp [put, List.lookup_cons, this, h]
  | cons member rest ih =>
    obtain ⟨k, v⟩ := member
    by_cases hk : k = key
    · by_cases h : other = key
      · simp [put, hk, h]
      · have : (other == key) = false := by simpa using h
        simp [put, hk, List.lookup_cons, this, h]
    · simp only [put, hk, if_false, List.lookup_cons]
      by_cases h : other = k
      · have : other ≠ key := fun hc => hk (h ▸ hc)
        simp [h, hk]
      · have : (other == k) = false := by simpa using h
        simp [this, ih]

/-- Texts as a value. -/
def strings (texts : List Text) : Json :=
  array (texts.map string)

/-- A text or null. -/
def optionalString : Option Text → Json
  | some text => string text
  | none => null

mutual

/-- Whether a number of the binary format somewhere in the value has the property `number`, or a
string or a name the property `text`. -/
def holds (number : Binary64 → Bool) (text : Text → Bool) : Json → Bool
  | .number value => number value
  | .string value => text value
  | .array items => holdsItem number text items
  | .object members => holdsMember number text members
  | _ => false

/-- Whether an item of an array has a part with one of the properties. -/
def holdsItem (number : Binary64 → Bool) (text : Text → Bool) : List Json → Bool
  | [] => false
  | item :: items => holds number text item || holdsItem number text items

/-- Whether a member of an object has a part with one of the properties. -/
def holdsMember (number : Binary64 → Bool) (text : Text → Bool) :
    List (Text × Json) → Bool
  | [] => false
  | (key, value) :: members =>
    text key || holds number text value || holdsMember number text members

end

/-- Whether half of a surrogate pair stands in a string or a name of the value. -/
def isBroken (value : Json) : Bool :=
  value.holds (fun _ => false) fun text => !text.isWhole

mutual

/-- The value without the members, at any depth, whose names have a property. -/
def without (name : Text → Bool) : Json → Json
  | .array items => .array (withoutInItems name items)
  | .object members => .object (withoutInMembers name members)
  | value => value

/-- The items of an array without such members. -/
def withoutInItems (name : Text → Bool) : List Json → List Json
  | [] => []
  | item :: items => without name item :: withoutInItems name items

/-- The members of an object without such members. -/
def withoutInMembers (name : Text → Bool) : List (Text × Json) → List (Text × Json)
  | [] => []
  | (key, value) :: members =>
    if name key then withoutInMembers name members
    else (key, without name value) :: withoutInMembers name members

end

end Json

end ProseGuard
