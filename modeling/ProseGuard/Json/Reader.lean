import ProseGuard.Json.Basic
import ProseGuard.Json.Token

/-!
# Reading JSON

A pushdown machine over tokens: a stack of the containers that are open, and what may come next.
The answer is a value or the first fault; text that is malformed is told by a code point.
-/

namespace ProseGuard.Json

/-- Why a text is not read. -/
inductive ReadFault where
  | malformed (offset : Nat)
  /-- An integer has more digits than allowed. -/
  | tooManyDigits (digits : Nat)
  /-- Containers are nested deeper than allowed. -/
  | tooDeep
deriving DecidableEq

/-- How many containers may be open at once. -/
def maxDepth : Nat := 989

/-- A container that is open: what it holds so far, last first, and the key being filled. -/
inductive Frame where
  | array (items : List Json)
  | object (members : Members) (key : Text)

/-- What may come next. -/
inductive ReadState where
  | value (stack : List Frame)
  | firstItem (stack : List Frame)
  | firstKey (stack : List Frame)
  | nextKey (members : Members) (stack : List Frame)
  | colon (members : Members) (key : Text) (stack : List Frame)
  | separator (top : Frame) (stack : List Frame)
  | done (value : Json)

/-- Puts a value that is complete into the innermost open container. -/
def ReadState.complete (value : Json) : List Frame → ReadState
  | [] => done value
  | .array items :: stack => separator (.array (value :: items)) stack
  | .object members key :: stack => separator (.object ((key, value) :: members) key) stack

/-- The value of a token that is a value by itself. -/
def Lexeme.scalar? : Lexeme → Option Json
  | .null => some .null
  | .bool value => some (.bool value)
  | .integer value => some (.integer value)
  | .number value => some (.number value)
  | .string value => some (.string value)
  | _ => none

/-- The fault of a token where none of its kind may stand. -/
def Token.misplaced (token : Token) : ReadFault :=
  .malformed token.offset

/-- Reads a token where a value must start. -/
def readValue (token : Token) (stack : List Frame) : Except ReadFault ReadState :=
  match token.lexeme.scalar? with
  | some value => .ok (.complete value stack)
  | none =>
    match token.lexeme with
    | .openArray => if stack.length < maxDepth then .ok (.firstItem stack) else .error .tooDeep
    | .openObject => if stack.length < maxDepth then .ok (.firstKey stack) else .error .tooDeep
    | .longInteger digits => .error (.tooManyDigits digits)
    | .badString offset => .error (.malformed offset)
    | _ => .error token.misplaced

/-- Reads a token where a key must stand. -/
def readKey (token : Token) (members : Members) (stack : List Frame) :
    Except ReadFault ReadState :=
  match token.lexeme with
  | .string key => .ok (.colon members key stack)
  | .badString offset => .error (.malformed offset)
  | _ => .error token.misplaced

/-- One step of the machine. -/
def ReadState.step (token : Token) : ReadState → Except ReadFault ReadState
  | value stack => readValue token stack
  | firstItem stack =>
    if token.lexeme = .closeArray then .ok (complete (.array []) stack)
    else readValue token (.array [] :: stack)
  | firstKey stack =>
    if token.lexeme = .closeObject then .ok (complete (.object []) stack)
    else readKey token [] stack
  | nextKey members stack => readKey token members stack
  | colon members key stack =>
    if token.lexeme = .colon then .ok (value (.object members key :: stack))
    else .error token.misplaced
  | separator (.array items) stack =>
    if token.lexeme = .comma then .ok (value (.array items :: stack))
    else if token.lexeme = .closeArray then .ok (complete (.array items.reverse) stack)
    else .error token.misplaced
  | separator (.object members _) stack =>
    if token.lexeme = .comma then .ok (nextKey members stack)
    else if token.lexeme = .closeObject then
      .ok (complete (.object (merged members.reverse)) stack)
    else .error token.misplaced
  | done _ => .error token.misplaced

/-- Runs the machine; the end of the text is accepted once a value is complete. -/
def readTokens : ReadState → List Token → Except ReadFault Json
  | _, [] => .error (.malformed 0)
  | state, token :: tokens =>
    match state, token.lexeme with
    | .done value, .endOfText => .ok value
    | state, _ => state.step token >>= (readTokens · tokens)

/-- Reads a text that is one JSON value. -/
def read (text : Text) : Except ReadFault Json :=
  readTokens (.value []) (tokensFrom 0 text)

end ProseGuard.Json
