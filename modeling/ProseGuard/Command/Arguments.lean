import ProseGuard.Text.Integer
import ProseGuard.Text.Quoted

/-!
# Command line arguments

A command line is read against a grammar of switches and at most one operand. Words before a
double hyphen that look like switches are taken for switches: in full, shortened as long as only
one is meant, or joined with their value; short switches without a value may share a word. A double
hyphen that is joined to a switch as its value is dropped, so that an empty list of values is left.
Both commands of specification 6 are read so, by `Grammar.read`.
-/

namespace ProseGuard.Command

/-- What a switch is given: a value, or an empty list in place of one. -/
inductive Given (α : Type) where
  | value (value : α)
  | nothing
deriving DecidableEq

/-- The value, if there is one. -/
def Given.value? {α : Type} : Given α → Option α
  | value a => some a
  | nothing => none

/-- Reads the value, if there is one. -/
def Given.read {α β ε : Type} (f : α → Except ε β) : Given α → Except ε (Given β)
  | value a => (f a).map value
  | nothing => .ok nothing

/-- What is written as a value; a double hyphen is dropped. -/
def Given.ofText (text : Text) : Given Text :=
  if text = "--" then nothing else value text

/-- What a switch does to the values read so far. -/
inductive Effect (σ : Type) where
  | help
  | mark (apply : σ → σ)
  /-- Takes a value, or says what is wrong with it. -/
  | value (apply : Given Text → σ → Except Text σ)

/-- A switch with the names it goes by. -/
structure Switch (σ : Type) where
  names : List Text
  effect : Effect σ

/-- The operand: its name and what it does. -/
structure Operand (σ : Type) where
  name : Text
  apply : Text → σ → σ

/-- The switches and the operand of a command. -/
structure Grammar (σ : Type) where
  switches : List (Switch σ)
  operand : Option (Operand σ)

/-- Why reading ends before the end of the line. -/
inductive Stop where
  | help
  | usage (message : Text)

/-- A text that is written in one word with its switch, and whether the switch goes by a long
name there. -/
structure Joined where
  byLongName : Bool
  value : Text

/-- A word of the command line. -/
inductive Word (σ : Type) where
  | plain (text : Text)
  | hyphens
  | switch (switch : Switch σ) (joined : Option Joined)
  | unknown (text : Text)

variable {σ : Type}

/-- The names of all switches, each with its switch. -/
def Grammar.names (g : Grammar σ) : List (Text × Switch σ) :=
  g.switches.flatMap fun s => s.names.map (·, s)

/-- Whether a text begins with another. -/
def startsWith (start text : Text) : Bool :=
  start.isPrefixOf text

/-- The text before an equal sign and the one behind it. -/
def splitAtEqualSign (text : Text) : Option (Text × Text) :=
  match text.dropWhile fun c : Point => c ≠ '=' with
  | _ :: value => some (text.takeWhile fun c => c ≠ '=', value)
  | [] => none

/-- Whether the text is a negative number: digits, with a point before the last ones or not. -/
def isNegativeNumber (text : Text) : Bool :=
  match text with
  | .char '-' :: cs =>
    let cs := if cs.getLast? = some (.char '\n') then cs.dropLast else cs
    let isDigit := fun c => (Text.digitValue? c).isSome
    match cs.dropWhile isDigit with
    | [] => !cs.isEmpty
    | .char '.' :: fraction => !fraction.isEmpty && fraction.all isDigit
    | _ => false
  | _ => false

/-- The switches that a shortened or joined word can mean, with the names meant. -/
def Grammar.meanings (g : Grammar σ) (text : Text) :
    List (Text × Switch σ × Option Joined) :=
  if startsWith "--" text then
    let parts := splitAtEqualSign text
    let start := (parts.map (·.1)).getD text
    let joined := parts.map fun part => Joined.mk true part.2
    (g.names.filter fun entry => startsWith start entry.1).map fun (name, s) => (name, s, joined)
  else
    g.names.filterMap fun (name, s) =>
      if name = text.take 2 then some (name, s, some ⟨false, text.drop 2⟩)
      else if startsWith text name then some (name, s, none)
      else none

/-- The word that a text is, before a double hyphen. -/
def Grammar.classify (g : Grammar σ) (text : Text) : Except Stop (Word σ) :=
  if !startsWith "-" text then .ok (.plain text)
  else match g.names.lookup text with
    | some s => .ok (.switch s none)
    | none =>
      if text = "-" then .ok (.plain text)
      else
        let joined := (splitAtEqualSign text).bind fun (name, value) =>
          (g.names.lookup name).map fun s =>
            Word.switch s (some ⟨startsWith "--" name, value⟩)
        match joined, g.meanings text with
        | some word, _ => .ok word
        | none, [(_, s, joined)] => .ok (.switch s joined)
        | none, [] =>
          if isNegativeNumber text || text.contains ' ' then .ok (.plain text)
          else .ok (.unknown text)
        | none, meanings =>
          .error (.usage ("ambiguous option: " ++ text ++ " could match " ++
            Text.join ", " (meanings.map (·.1))))

/-- The words of a command line. -/
def Grammar.words (g : Grammar σ) : List Text → Except Stop (List (Word σ))
  | [] => .ok []
  | text :: texts =>
    if text = "--" then .ok (.hyphens :: texts.map .plain)
    else do return (← g.classify text) :: (← g.words texts)

/-- What has been read: the values, words that fit nowhere, and whether the operand is still to
come. -/
structure Progress (σ : Type) where
  values : σ
  extras : List Text
  operand : Option (Operand σ)

/-- A complaint about a switch. -/
def complaint (s : Switch σ) (message : Text) : Stop :=
  .usage ("argument " ++ Text.join "/" s.names ++ ": " ++ message)

/-- The complaint about a value that a switch cannot take. -/
def ignoredValue (s : Switch σ) (value : Text) : Stop :=
  complaint s ("ignored explicit argument " ++ Text.quoted value)

/-- The switches of one word: those that take no value, and the last one with what is left of the
word. -/
structure Cluster (σ : Type) where
  marks : List (Switch σ)
  last : Switch σ
  value : Option Text

/-- Takes apart a word that joins a switch with a text. The text is the value of a switch that
takes one; behind a short switch that takes none it is the letters of further switches. -/
def Grammar.cluster (g : Grammar σ) (s : Switch σ) (byLongName : Bool) :
    Text → Except Stop (Cluster σ)
  | [] =>
    match s.effect with
    | .value _ => .ok ⟨[], s, some ""⟩
    | _ => .error (ignoredValue s "")
  | c :: cs =>
    match s.effect with
    | .value _ => .ok ⟨[], s, some (c :: cs)⟩
    | _ =>
      match if byLongName then none else g.names.lookup [.char '-', c] with
      | none => .error (ignoredValue s (c :: cs))
      | some next =>
        if cs.isEmpty then .ok ⟨[s], next, none⟩
        else do
          let rest ← g.cluster next false cs
          return { rest with marks := s :: rest.marks }

/-- The switches of the word of a switch. -/
def Grammar.switchesOf (g : Grammar σ) (s : Switch σ) :
    Option Joined → Except Stop (Cluster σ)
  | some joined => g.cluster s joined.byLongName joined.value
  | none => .ok ⟨[], s, none⟩

/-- Applies a switch. -/
def Progress.apply (p : Progress σ) (s : Switch σ) (value : Option Text) :
    Except Stop (Progress σ) :=
  match s.effect, value with
  | .help, _ => .error .help
  | .mark apply, _ => .ok { p with values := apply p.values }
  | .value apply, some value =>
    match apply (.ofText value) p.values with
    | .ok values => .ok { p with values := values }
    | .error message => .error (complaint s message)
  | .value _, none => .error (complaint s "expected one argument")

/-- Applies the switches of a word. The last one takes the free word behind it if it needs a value;
the answer tells whether it did. -/
def Grammar.applyWord (g : Grammar σ) (p : Progress σ) (s : Switch σ) (joined : Option Joined)
    (next : Option Text) : Except Stop (Progress σ × Bool) := do
  let cluster ← g.switchesOf s joined
  let p ← cluster.marks.foldlM (fun p mark => p.apply mark none) p
  match cluster.value, cluster.last.effect, next with
  | none, .value _, some text => return (← p.apply cluster.last (some text), true)
  | value, _, _ => return (← p.apply cluster.last value, false)

/-- The text of a word that fits nowhere. -/
def Word.text : Word σ → Text
  | plain text => text
  | hyphens => "--"
  | switch s _ => s.names.headD ""
  | unknown text => text

/-- Reads the words in order. A double hyphen beside the operand is left out. -/
def Grammar.consume (g : Grammar σ) (p : Progress σ) : List (Word σ) → Except Stop (Progress σ)
  | [] => .ok p
  | .plain text :: words =>
    match p.operand with
    | none => g.consume { p with extras := p.extras ++ [text] } words
    | some operand =>
      let p := { p with values := operand.apply text p.values, operand := none }
      match words with
      | .hyphens :: words => g.consume p words
      | words => g.consume p words
  | .hyphens :: words =>
    match p.operand, words with
    | some operand, .plain text :: words =>
      g.consume { p with values := operand.apply text p.values, operand := none } words
    | _, words => .ok { p with extras := p.extras ++ ("--" : Text) :: words.map Word.text }
  | .unknown text :: words => g.consume { p with extras := p.extras ++ [text] } words
  | .switch s joined :: .plain text :: words => do
    let (p, used) ← g.applyWord p s joined (some text)
    if used then g.consume p words else g.consume p (.plain text :: words)
  | .switch s joined :: words => do
    let (p, _) ← g.applyWord p s joined none
    g.consume p words

/-- Reads a command line. -/
def Grammar.read (g : Grammar σ) (start : σ) (line : List Text) : Except Stop σ := do
  let p ← g.consume ⟨start, [], g.operand⟩ (← g.words line)
  match p.operand, p.extras with
  | some operand, _ =>
    .error (.usage ("the following arguments are required: " ++ operand.name))
  | none, [] => .ok p.values
  | none, extras => .error (.usage ("unrecognized arguments: " ++ Text.join " " extras))

end ProseGuard.Command
