import ProseGuard.Http
import ProseGuard.Proofs.Command.Finish
import ProseGuard.Proofs.Json.Wholeness

/-!
# Ends that agree

What the end of the command tells and what the service answers, once both have come to the same
guards, to the same problem or to the same fault. Main statements: `agree_of_guards`,
`agree_of_problem` and `agree_of_fault`, one for each of these. Guards in which half of a surrogate
pair stands are not answered, and printed only on an output that carries it.
-/

namespace ProseGuard.Command

open Comment (Pipelines)
open Http (Response)

variable {pipelines : Pipelines} {carries : Text → Bool} {args : GuardsArguments}
  {loaded : Loaded}

/-! ## What is told -/

/-- No half of a surrogate pair stands in the value. -/
def IsWritable (value : Json) : Prop :=
  value.isBroken = false

/-- The text that a list of values is printed as. -/
def listText (results : List Json) : Text :=
  (Json.array results).indented ++ "\n"

/-- The command ends with status 0 and prints the list. -/
def Prints (ended : Except Failure Outcome) (results : List Json) : Prop :=
  ∃ log, ended = .ok ⟨0, listText results, "", log⟩

/-- The command ends with status 1 and tells the message. -/
def Complains (ended : Except Failure Outcome) (message : Text) : Prop :=
  ∃ log, ended = .ok ⟨1, "", "error: " ++ message, log⟩

/-- The command ends in a fault. -/
def Faults (ended : Except Failure Outcome) : Prop :=
  ∃ fault, ended = .error (.fault fault)

/-- The service answers with the list. -/
def Answers (response : Response) (results : List Json) : Prop :=
  response.status = 200 ∧ response.body = .object [("results", .array results)]

/-- The service tells by the message why it is unavailable. -/
def IsUnavailable (response : Response) (message : Text) : Prop :=
  response.status = 503 ∧ response.body = .object [("detail", .string message)]

/-- How the end of the command, on an output that carries certain texts, and the answer of the
service agree. -/
structure Agree (carries : Text → Bool) (ended : Except Failure Outcome) (response : Response) :
    Prop where
  /-- The command prints a list, or complains, or ends in a fault. -/
  ends : (∃ results, Prints ended results) ∨ (∃ message, Complains ended message) ∨ Faults ended
  /-- A list that is answered is printed, if the output carries it. -/
  answered : ∀ results, Answers response results → carries (listText results) = true →
    Prints ended results
  /-- A list that is printed is answered, if an answer can hold it. -/
  printed : (∃ results, Prints ended results) →
    ∃ results, Prints ended results ∧ (IsWritable (.array results) → Answers response results)
  /-- The service is unavailable exactly if the command complains, in words that can be answered. -/
  unavailable : response.status = 503 ↔
    ∃ message, Complains ended message ∧ message.isWhole = true
  complains : ∀ message, Complains ended message → message.isWhole = true →
    IsUnavailable response message
  /-- On an output in UTF-8 just what is answered is printed. -/
  unicode : (∀ text, carries text = text.isWhole) →
    ((∃ results, Prints ended results) ↔ response.status = 200) ∧
    (response.status = 200 → ∃ results, Answers response results ∧ Prints ended results)
  /-- And there every other answer is to a command that ends in a fault, or that complains in words
  that cannot be answered. -/
  failed : (∀ text, carries text = text.isWhole) →
    (response.status = 500 ↔
      Faults ended ∨ ∃ message, Complains ended message ∧ message.isWhole = false)

/-! ## Guards -/

section Guards

variable {guards : List MemberGuards}

/-- Guards are answered as long as an answer can hold them. -/
theorem status_ofGuards (guards : List MemberGuards) : (Response.ofGuards guards).status =
    if (Json.array (guards.map MemberGuards.toJson)).isBroken then 500 else 200 := by
  unfold Response.ofGuards
  split <;> rfl

/-- The list that is answered is that of the guards. -/
theorem answers_ofGuards_iff {results : List Json} : Answers (.ofGuards guards) results ↔
    IsWritable (.array results) ∧ results = guards.map MemberGuards.toJson := by
  unfold Response.ofGuards
  split
  · next hbroken =>
      refine iff_of_false (fun h => absurd h.1 (by decide : 500 ≠ 200)) ?_
      rintro ⟨hwritable, rfl⟩
      exact absurd (hwritable.symm.trans hbroken) Bool.false_ne_true
  · next hbroken =>
      constructor
      · rintro ⟨-, hbody⟩
        obtain rfl : guards.map MemberGuards.toJson = results := by
          simpa [Response.body] using hbody
        exact ⟨Bool.eq_false_iff.2 hbroken, rfl⟩
      · rintro ⟨-, rfl⟩
        exact ⟨rfl, rfl⟩

/-- What is printed of guards is whole exactly if an answer can hold them. -/
theorem isWhole_printed (guards : List MemberGuards) :
    (printed guards).isWhole = !(Json.array (guards.map MemberGuards.toJson)).isBroken := by
  rw [printed, Text.isWhole_append, Json.isWhole_indented, Text.isWhole_ofString, Bool.and_true]

variable (h : guardsOf pipelines args loaded = .ok guards)

include h

/-- A list is printed exactly if the output carries the guards and it is written as they are. -/
theorem prints_finish_iff {results : List Json} :
    Prints (finish pipelines carries args loaded) results ↔
      carries (printed guards) = true ∧ listText results = printed guards := by
  cases hcarries : carries (printed guards) with
  | true =>
      obtain ⟨log, hfinish⟩ := finish_of_guards h hcarries
      simp [Prints, hfinish, eq_comm]
  | false => simp [Prints, finish_of_uncarried h hcarries]

/-- The command ends in a fault exactly if the output cannot carry the guards. -/
theorem faults_finish_iff :
    Faults (finish pipelines carries args loaded) ↔ carries (printed guards) = false := by
  cases hcarries : carries (printed guards) with
  | true =>
      obtain ⟨log, hfinish⟩ := finish_of_guards h hcarries
      simp [Faults, hfinish]
  | false => simp [Faults, finish_of_uncarried h hcarries]

/-- The command does not complain of guards. -/
theorem not_complains_finish (message : Text) :
    ¬ Complains (finish pipelines carries args loaded) message := by
  cases hcarries : carries (printed guards) with
  | true =>
      obtain ⟨log, hfinish⟩ := finish_of_guards h hcarries
      simp [Complains, hfinish]
  | false => simp [Complains, finish_of_uncarried h hcarries]

/-- Where guards are there, the command prints them or ends in a fault, and the service answers with
them or fails. -/
theorem agree_of_guards :
    Agree carries (finish pipelines carries args loaded) (.ofGuards guards) where
  ends := by
    cases hcarries : carries (printed guards) with
    | true => exact .inl ⟨_, (prints_finish_iff h).2 ⟨hcarries, rfl⟩⟩
    | false => exact .inr (.inr ((faults_finish_iff h).2 hcarries))
  answered results hanswers hcarries := by
    obtain ⟨-, rfl⟩ := answers_ofGuards_iff.1 hanswers
    exact (prints_finish_iff h).2 ⟨hcarries, rfl⟩
  printed := by
    rintro ⟨results, hresults⟩
    have hcarries := ((prints_finish_iff h).1 hresults).1
    exact ⟨_, (prints_finish_iff h).2 ⟨hcarries, rfl⟩, fun hwritable =>
      answers_ofGuards_iff.2 ⟨hwritable, rfl⟩⟩
  unavailable := by
    rw [status_ofGuards]
    refine iff_of_false ?_ fun ⟨message, htold, _⟩ => not_complains_finish h message htold
    split <;> decide
  complains message htold := absurd htold (not_complains_finish h message)
  unicode hunicode := by
    have hcarries := (hunicode _).trans (isWhole_printed guards)
    rw [status_ofGuards]
    cases hbroken : (Json.array (guards.map MemberGuards.toJson)).isBroken with
    | false =>
        have hprints := (prints_finish_iff h).2 ⟨hcarries.trans (congrArg not hbroken), rfl⟩
        exact ⟨iff_of_true ⟨_, hprints⟩ rfl,
          fun _ => ⟨_, answers_ofGuards_iff.2 ⟨hbroken, rfl⟩, hprints⟩⟩
    | true => simp [prints_finish_iff h, hcarries, hbroken]
  failed hunicode := by
    have hcarries := (hunicode _).trans (isWhole_printed guards)
    rw [status_ofGuards, faults_finish_iff h, hcarries]
    simp [not_complains_finish h]

end Guards

/-! ## Problems and faults -/

/-- A problem is answered as long as an answer can hold its words. -/
theorem status_ofProblem (problem : Problem) :
    (Response.ofProblem problem).status = if problem.message.isWhole then 503 else 500 := by
  unfold Response.ofProblem Http.isBroken
  cases problem.message.isWhole <;> rfl

/-- A problem on the way to the guards is told by both. -/
theorem agree_of_problem {problem : Problem}
    (h : guardsOf pipelines args loaded = .error (.problem problem)) :
    Agree carries (finish pipelines carries args loaded) (.ofProblem problem) := by
  obtain ⟨log, hfinish⟩ : ∃ log,
      finish pipelines carries args loaded = .ok (.ofProblem problem log) := finish_of_problem h
  have hprints (results : List Json) :
      ¬ Prints (finish pipelines carries args loaded) results := by
    simp [Prints, hfinish, Outcome.ofProblem]
  have hcomplains (message : Text) :
      Complains (finish pipelines carries args loaded) message ↔ message = problem.message := by
    simp [Complains, hfinish, Outcome.ofProblem, eq_comm]
  have hfaults : ¬ Faults (finish pipelines carries args loaded) := by
    simp [Faults, hfinish]
  have hstatus : (Response.ofProblem problem).status ≠ 200 := by
    rw [status_ofProblem]
    split <;> decide
  refine ⟨.inr (.inl ⟨_, (hcomplains _).2 rfl⟩), fun _ h => absurd h.1 hstatus,
    fun ⟨results, h⟩ => absurd h (hprints results), ?_, ?_, fun _ => ?_, fun _ => ?_⟩
  · rw [status_ofProblem]
    simp [hcomplains]
  · intro message htold hwhole
    obtain rfl := (hcomplains message).1 htold
    simp [IsUnavailable, Response.ofProblem, Http.isBroken, hwhole, Response.status, Response.body]
  · simp [hprints, hstatus]
  · rw [status_ofProblem]
    simp [hcomplains, hfaults]

/-- A fault of the pipeline ends the command and makes the service fail. -/
theorem agree_of_fault {fault : Fault}
    (h : guardsOf pipelines args loaded = .error (.fault fault)) :
    Agree carries (finish pipelines carries args loaded) (.broken (.fault fault)) := by
  have hfinish : finish pipelines carries args loaded = .error (.fault fault) := finish_of_fault h
  constructor <;>
    simp [Prints, Complains, Faults, Answers, IsUnavailable, hfinish, Response.status]

end ProseGuard.Command
