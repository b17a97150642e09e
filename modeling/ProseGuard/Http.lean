import ProseGuard.Guard.Condition
import ProseGuard.Json.Encoding
import ProseGuard.Json.Reader
import ProseGuard.Program.Description
import ProseGuard.Settings.Load

/-!
# The HTTP service

Answers requests for the guards of members of a program that the request itself describes. A body
that is no such request is rejected with every issue in it; the rejection repeats the value at each
issue, which has to be a value that an answer can hold. Members with a private name are not
repeated. An answer is text in UTF-8, in which no half of a surrogate pair can stand.

Specification 6, the HTTP surface: `/health` is answered by `Response.healthy`, `/translate` by
`Service.respondBytes`.
-/

namespace ProseGuard.Http

open Program (TypeDecl)
open Comment (Member)
open Record (Checked Issue Flaw Step)
open Json (Binary64 Members)

/-- A request for the guards of members. -/
structure Request where
  types : List TypeDecl
  members : List Member
  /-- The threshold to use in place of the settings' own. -/
  threshold : Option Nat

/-- Reads a value that may be null. -/
def nullable {α : Type} (item : Json → Checked α) : Json → Checked (Option α)
  | .null => .valid none
  | value => some <$> item value

/-- Reads a request. -/
def Request.ofJson : Json → Checked Request :=
  Record.ofObject fun members =>
    Request.mk <$> Record.optional members "types" [] (Record.listOf TypeDecl.ofJson)
      <*> Record.required members "members" (Record.listOf Member.ofJson)
      <*> Record.optional members "distance_threshold" none (nullable Record.natural)

/-- What a service is started with: the settings, and the pipelines at hand. -/
structure Service where
  settings : Settings
  pipelines : Comment.Pipelines := .absent

/-- Starts a service with the given settings, or with those that files and environment make. -/
def Service.start (files : Files) (environment : Option Text) (given : Option Settings)
    (pipelines : Comment.Pipelines := .absent) : Except Failure Service :=
  match given with
  | some settings => .ok ⟨settings, pipelines⟩
  | none => (Settings.load files environment none []).map fun settings => ⟨settings, pipelines⟩

/-- The answer to a request. -/
inductive Response where
  | healthy
  | guarded (guards : List MemberGuards)
  | unavailable (problem : Problem)
  | invalid (issues : List Issue)
  | malformed (offset : Nat)
  | unreadable
  /-- A failure on the way to an answer. -/
  | broken (failure : Failure)

/-- The status code of an answer. -/
def Response.status : Response → Nat
  | healthy | guarded _ => 200
  | unavailable _ => 503
  | invalid _ | malformed _ => 422
  | unreadable => 400
  | broken _ => 500

/-- The code of a flaw in a request. -/
def flawCode : Flaw → Text
  | .notRecord => "model_attributes_type"
  | flaw => flaw.code

/-- One step of the way to an issue. -/
def stepJson : Step → Json
  | .field name => .string name
  | .index position => .integer position

/-- An issue of a body. -/
def bodyIssue (path : List Json) (code : Text) : Json :=
  .object [("type", .string code), ("loc", .array (.string "body" :: path))]

/-- The details of an answer that rejects a body. -/
def Response.details : Response → List Json
  | invalid issues =>
    issues.map fun issue => bodyIssue (issue.path.map stepJson) (flawCode issue.flaw)
  | malformed offset => [bodyIssue [.integer offset] "json_invalid"]
  | _ => []

/-- The body of an answer. -/
def Response.body : Response → Json
  | healthy => .object [("status", .string "ok")]
  | guarded guards =>
    .object [("results", .array (guards.map MemberGuards.toJson))]
  | unavailable problem => .object [("detail", .string problem.message)]
  | unreadable => .object [("detail", .string "There was an error parsing the body")]
  | broken _ => .string "Internal Server Error"
  | rejected => .object [("detail", .array rejected.details)]

/-- The settings that a request is answered with. -/
def Service.settingsFor (service : Service) (request : Request) : Settings :=
  match request.threshold with
  | some threshold => { service.settings with threshold := threshold }
  | none => service.settings

/-- The guards of the members of a request. -/
def Service.guards (service : Service) (request : Request) : Run (List MemberGuards) :=
  request.members.mapM (Context.ofSettings (.ofTypes request.types) (service.settingsFor request)
    service.pipelines).memberGuards

/-- Whether a number is not finite. -/
def isUnwritable : Binary64 → Bool
  | .finite _ _ => false
  | .infinite | .notANumber => true

/-- Whether half of a surrogate pair stands in a text. -/
def isBroken (text : Text) : Bool :=
  !text.isWhole

/-- Whether members of the name are left out of what a rejection repeats. -/
def isPrivate (name : Text) : Bool :=
  ("_sa" : Text).isPrefixOf name

/-- Why a rejection cannot repeat values: first that a number is not finite, then that half of a
surrogate pair stands in a text. -/
def unwritable? (values : List Json) : Option Fault :=
  let written := (Json.array values).without isPrivate
  if written.holds isUnwritable (fun _ => false) then some .unwritableNumber
  else if written.isBroken then some .unwritableText
  else none

/-- The answer that holds guards; no half of a surrogate pair may stand in them. -/
def Response.ofGuards (guards : List MemberGuards) : Response :=
  if (Json.array (guards.map MemberGuards.toJson)).isBroken then
    broken (.fault .unwritableResult)
  else guarded guards

/-- The answer that tells a problem; no half of a surrogate pair may stand in its words. -/
def Response.ofProblem (problem : Problem) : Response :=
  if isBroken problem.message then broken (.fault .unwritableText) else unavailable problem

/-- Answers a request. -/
def Service.answer (service : Service) (request : Request) : Response :=
  match (service.guards request).result with
  | .ok guards => .ofGuards guards
  | .error (.problem (.configuration problem)) => .ofProblem (.configuration problem)
  | .error failure => .broken failure

/-- The part of a value that a path leads to; null if it leads nowhere. -/
def partAt : List Step → Json → Json
  | [], value => value
  | .field name :: path, .object members =>
    partAt path ((members.lookup name).getD .null)
  | .index position :: path, .array items => partAt path (items[position]?.getD .null)
  | _, _ => .null

/-- The part of a body that an issue repeats: the value at fault, or for one that is missing the
object that it should be in. -/
def repeated (body : Json) (issue : Issue) : Json :=
  match issue.flaw with
  | .missing => partAt issue.path.dropLast body
  | _ => partAt issue.path body

/-- The rejection of a body with issues. -/
def rejection (body : Json) (issues : List Issue) : Response :=
  match unwritable? (issues.map (repeated body)) with
  | some fault => .broken (.fault fault)
  | none => .invalid issues

/-- Answers a body that is a value. -/
def Service.respond (service : Service) (body : Json) : Response :=
  match Request.ofJson body with
  | .valid request => service.answer request
  | .invalid issues => rejection body issues

/-- Answers a body of bytes. -/
def Service.respondBytes (service : Service) (body : List UInt8) : Response :=
  if body.isEmpty then .invalid [⟨[], .missing⟩]
  else match ((Json.Encoding.detect body).decode? body).map Json.read with
    | some (.ok value) => service.respond value
    | some (.error (.malformed offset)) => .malformed offset
    | _ => .unreadable

end ProseGuard.Http
