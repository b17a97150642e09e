import ProseGuard.Text.Quoted

/-!
# Events

What is reported while comments become guards. An event has a level and a message; the question put
to a proposition source is an event too, but one that no log shows.

Specification 8, logging.
-/

namespace ProseGuard

/-- How much an event matters. -/
inductive Level where
  | debug
  | info
  | warning
  | error
  | critical
deriving DecidableEq

/-- The number that levels are compared by. -/
def Level.rank : Level → Nat
  | .debug => 10
  | .info => 20
  | .warning => 30
  | .error => 40
  | .critical => 50

/-- The name that a log shows for a level. -/
def Level.name : Level → Text
  | .debug => "DEBUG"
  | .info => "INFO"
  | .warning => "WARNING"
  | .error => "ERROR"
  | .critical => "CRITICAL"

/-- Something that happened while comments became guards. -/
inductive Event where
  /-- A proposition source was given a text to read. -/
  | asked (text : Text)
  | loadingPipeline (model : Text)
  | started (members : Nat) (path : Text)
  | unknownContainer (type signature : Text)
  | noExecutable (signature : Text)
  | unnamed (kind expression : Text)
  | ambiguousWords (parameter : Text) (words : List Text)
  | malformedLiteral (predicate : Text)
  | unknownMemberType (type : Text)
  | degenerate (condition : Text)
  | unmatchedSubject (subject signature : Text)
  | unmatchedPredicate (predicate expression : Text)
deriving DecidableEq

namespace Event

/-- The level of an event that logs show. -/
def level? : Event → Option Level
  | asked _ => none
  | loadingPipeline _ => some .info
  | started _ _ => some .info
  | unknownContainer _ _ => some .warning
  | noExecutable _ => some .warning
  | _ => some .debug

/-- The words in which an event is told. -/
def message : Event → Text
  | asked text => text
  | loadingPipeline model => "Loading spaCy pipeline " ++ model
  | started members path =>
    "Translating " ++ toString members ++ " member(s) from " ++ path
  | unknownContainer type signature =>
    "Containing type " ++ type ++ " cannot be resolved; no code elements for " ++ signature
  | noExecutable signature => "No executable matches " ++ signature
  | unnamed kind expression =>
    "Dropping " ++ kind ++ " element without identifiers: " ++ expression
  | ambiguousWords parameter words =>
    "Ambiguous identifiers dropped from " ++ parameter ++ ": " ++ Text.quotedList words
  | malformedLiteral predicate =>
    "Malformed numeric literal in predicate " ++ Text.quoted predicate
  | unknownMemberType type => "No boolean members for unresolvable type " ++ type
  | degenerate condition => "Rejecting degenerate guard " ++ condition
  | unmatchedSubject subject signature =>
    "No subject match for " ++ Text.quoted subject ++ " in " ++ signature
  | unmatchedPredicate predicate expression =>
    "No predicate match for " ++ Text.quoted predicate ++ " on " ++ expression

/-- Whether the event is that a pipeline is loaded. -/
def isLoading : Event → Bool
  | loadingPipeline _ => true
  | _ => false

/-- The events of a run that keeps the pipeline it has loaded: loading is told the first time. -/
def loadedOnce : List Event → List Event
  | [] => []
  | event :: events =>
    if event.isLoading then event :: events.filter fun later => !later.isLoading
    else event :: loadedOnce events

/-- Whether a log that starts at the given rank shows the event. -/
def shownFrom (rank : Int) (event : Event) : Bool :=
  event.level?.any fun level => rank ≤ level.rank

end Event

/-- The rank that a log shows events from; rank 0 leaves it to the standard, which is to show
warnings and what matters more. -/
def effectiveRank (rank : Int) : Int :=
  if rank = 0 then Level.warning.rank else rank

/-- The level names that settings may use, with their ranks. -/
def levelNames : List (Text × Nat) :=
  [("CRITICAL", 50), ("FATAL", 50), ("ERROR", 40), ("WARN", 30), ("WARNING", 30), ("INFO", 20),
    ("DEBUG", 10), ("NOTSET", 0)]

end ProseGuard
