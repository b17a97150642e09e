import ProseGuard.Command.Serve
import ProseGuard.Proofs.Guard.Failure
import ProseGuard.Proofs.Program.Reading
import ProseGuard.Proofs.Settings.Reading

/-!
# How the guards command ends

Once all is loaded the command ends with the guards of the members, or for want of the pipeline
that the settings name. A fault of that pipeline ends it without an outcome, and so do guards that
the output cannot carry (`exists_finish_iff`). Main statement: `exists_perform_iff`, by which it
ends with an outcome exactly if loading is reported at each step, settings first, and what is loaded
can be told.
-/

namespace ProseGuard.Command

open Comment (Member Pipelines)

variable {pipelines : Pipelines} {carries : Text → Bool} {files : Files}
  {environment : Option Text} {args : GuardsArguments} {loaded : Loaded} {line : List Text}

/-- What the guards of the members asked for come to. -/
def guardsOf (pipelines : Pipelines) (args : GuardsArguments) (loaded : Loaded) :
    Except Failure (List MemberGuards) :=
  (args.selected loaded.members).mapM fun m =>
    ((Context.ofSettings loaded.program loaded.settings pipelines).memberGuards m).result

/-- The problem that the pipeline of the settings cannot be loaded. -/
def noPipelineOf (settings : Settings) (reason : Text) : Problem :=
  .configuration (.noPipeline ⟨settings.pipelineModel, reason⟩)

/-- What is loaded can be told: the pipeline ends in no fault on the way to the guards, and the
output carries them. -/
structure CanTell (pipelines : Pipelines) (carries : Text → Bool) (args : GuardsArguments)
    (loaded : Loaded) : Prop where
  sound : ∀ fault, guardsOf pipelines args loaded ≠ .error (.fault fault)
  carried : ∀ guards, guardsOf pipelines args loaded = .ok guards →
    carries (printed guards) = true

theorem result_allGuards :
    (allGuards pipelines args loaded).result = guardsOf pipelines args loaded := by
  rw [allGuards, Run.result_bind, Run.result_report, Run.ok_bind, Run.result_mapM, guardsOf]

/-- Guards are there, or the pipeline cannot be loaded, or it ends in a fault. -/
theorem guardsOf_cases (pipelines : Pipelines) (args : GuardsArguments) (loaded : Loaded) :
    (∃ guards, guardsOf pipelines args loaded = .ok guards) ∨
      (∃ reason, pipelines.load loaded.settings.pipelineModel = .error reason ∧
        guardsOf pipelines args loaded =
          .error (.problem (noPipelineOf loaded.settings reason))) ∨
      ∃ fault, guardsOf pipelines args loaded = .error (.fault fault) := by
  cases h : guardsOf pipelines args loaded with
  | ok guards => exact .inl ⟨guards, rfl⟩
  | error failure =>
      obtain ⟨m, -, hm⟩ := Run.exists_of_mapM_eq_error h
      rcases Context.failure_of_memberGuards hm with
        ⟨reason, hload, rfl⟩ | ⟨-, -, fault, -, -, rfl⟩
      · exact .inr (.inl ⟨reason, hload, rfl⟩)
      · exact .inr (.inr ⟨fault, rfl⟩)

/-- With guards that the output carries the command ends well and prints them. -/
theorem finish_of_guards {guards : List MemberGuards}
    (h : guardsOf pipelines args loaded = .ok guards) (hcarries : carries (printed guards) = true) :
    ∃ log, finish pipelines carries args loaded = .ok ⟨0, printed guards, "", log⟩ := by
  simp only [finish, result_allGuards, h, hcarries, if_true]
  exact ⟨_, rfl⟩

/-- Guards that the output cannot carry are a fault. -/
theorem finish_of_uncarried {guards : List MemberGuards}
    (h : guardsOf pipelines args loaded = .ok guards)
    (hcarries : carries (printed guards) = false) :
    finish pipelines carries args loaded = .error (.fault .unwritableText) := by
  simp [finish, result_allGuards, h, hcarries]

/-- A problem on the way to the guards ends the command by telling it. -/
theorem finish_of_problem {problem : Problem}
    (h : guardsOf pipelines args loaded = .error (.problem problem)) :
    ∃ log, finish pipelines carries args loaded = .ok (.ofProblem problem log) := by
  simp only [finish, result_allGuards, h]
  exact ⟨_, rfl⟩

/-- A fault on the way to the guards is one of the command. -/
theorem finish_of_fault {fault : Fault}
    (h : guardsOf pipelines args loaded = .error (.fault fault)) :
    finish pipelines carries args loaded = .error (.fault fault) := by
  simp [finish, result_allGuards, h]

/-- Once all is loaded the command ends exactly if what is loaded can be told. -/
theorem exists_finish_iff : (∃ outcome, finish pipelines carries args loaded = .ok outcome) ↔
    CanTell pipelines carries args loaded := by
  rcases guardsOf_cases pipelines args loaded with
    ⟨guards, h⟩ | ⟨reason, -, h⟩ | ⟨fault, h⟩
  · have htell : CanTell pipelines carries args loaded ↔ carries (printed guards) = true := by
      refine ⟨fun htell => htell.carried guards h, fun hcarries => ⟨?_, ?_⟩⟩
      · intro fault hfault
        exact nomatch h.symm.trans hfault
      · intro other hother
        exact Except.ok.inj (h.symm.trans hother) ▸ hcarries
    rw [htell]
    cases hcarries : carries (printed guards) with
    | true =>
        obtain ⟨log, hfinish⟩ := finish_of_guards h hcarries
        exact iff_of_true ⟨_, hfinish⟩ rfl
    | false =>
        rw [finish_of_uncarried h hcarries]
        exact iff_of_false (fun ⟨_, houtcome⟩ => nomatch houtcome) Bool.false_ne_true
  · obtain ⟨log, hfinish⟩ : ∃ log, finish pipelines carries args loaded = .ok (.ofProblem _ log) :=
      finish_of_problem h
    refine iff_of_true ⟨_, hfinish⟩ ⟨fun fault hfault => ?_, fun guards hguards => ?_⟩
    · exact nomatch h.symm.trans hfault
    · exact nomatch h.symm.trans hguards
  · rw [finish_of_fault h]
    exact iff_of_false (fun ⟨_, houtcome⟩ => nomatch houtcome) fun htell => htell.sound fault h

/-- The command ends exactly if what keeps it from loading is reported, and what is loaded can be
told. -/
theorem exists_perform_iff_load :
    (∃ outcome, perform pipelines carries files environment args = .ok outcome) ↔
      Reported id (load files environment args) ∧
        ∀ loaded, load files environment args = .ok loaded →
          CanTell pipelines carries args loaded := by
  rw [perform]
  cases load files environment args with
  | ok loaded =>
      simp only [exists_finish_iff, Except.ok.injEq, forall_eq']
      exact (and_iff_right (.value loaded)).symm
  | error failure =>
      cases failure with
      | problem problem =>
          exact iff_of_true ⟨_, rfl⟩ ⟨.told problem, by rintro loaded ⟨⟩⟩
      | fault fault =>
          refine iff_of_false ?_ fun h => not_reported_fault fault h.1
          rintro ⟨outcome, ⟨⟩⟩

/-- A line that is read is performed. -/
theorem guards_of_read (h : guardsGrammar.read {} line = .ok args) :
    guards files environment line pipelines carries =
      perform pipelines carries files environment args := by
  rw [guards, h]

/-- A command that is performed ends, if it does, with status 0 or 1. -/
theorem exists_status_iff :
    (∃ outcome, perform pipelines carries files environment args = .ok outcome ∧
      (outcome.status = 0 ∨ outcome.status = 1)) ↔
        ∃ outcome, perform pipelines carries files environment args = .ok outcome :=
  exists_congr fun _ => and_iff_left_of_imp perform_status

/-- The name of the level that the log shows events from. -/
def levelAsked (args : GuardsArguments) (settings : Settings) : Text :=
  if args.verbose then "DEBUG" else settings.logLevel

/-- With settings that name a level, it is the program that is left to load. -/
theorem load_of_settings {settings : Settings} {rank : Int}
    (hsettings : Settings.load files environment args.settings args.overrides = .ok settings)
    (hrank : levelRank (levelAsked args settings) = .ok rank) :
    load files environment args = do
      let program ← Program.load files args.program
      let members ← Program.loadMembers files args.program
      return ⟨settings, effectiveRank rank, program, members⟩ := by
  rw [load, hsettings]
  show (levelRank (levelAsked args settings) >>= _) = _
  rw [hrank]
  rfl

/-- What a path leads to is read as types and members or reported. Members are read only if the
types are valid. -/
def ProgramReported (files : Files) (path : Text) : Prop :=
  Program.Describes files path "types" ∧
    ∀ p, Program.load files path = .ok p → Program.Describes files path "members"

/-- Loading the program goes on or is reported exactly if the program file is. -/
theorem reported_loaded_iff {α : Type} {path : Text} (f : Program → List Member → α) :
    Reported id (do
      let program ← Program.load files path
      let members ← Program.loadMembers files path
      return f program members) ↔ ProgramReported files path := by
  have hsort : ∀ problem, ∃ wrong, id wrong = Problem.program problem := fun problem => ⟨_, rfl⟩
  rw [reported_bind_iff, Program.reported_load_iff hsort, ProgramReported]
  refine and_congr_right fun _ => forall₂_congr fun program _ => ?_
  rw [reported_bind_iff, Program.reported_loadMembers_iff hsort]
  exact and_iff_left fun members _ => .value _

/-- Loading is reported exactly if the settings file is and, once the settings are there, they name a
level and the program file is reported. -/
theorem reported_load_iff : Reported id (load files environment args) ↔
    Settings.FileReported files environment args.settings ∧
      ∀ settings, Settings.load files environment args.settings args.overrides = .ok settings →
        Settings.IsLevelName (levelAsked args settings) ∧ ProgramReported files args.program := by
  have hsort : ∀ problem, ∃ wrong, id wrong = Problem.configuration problem :=
    fun problem => ⟨_, rfl⟩
  rw [load, reported_bind_iff, Settings.reported_load_iff hsort]
  refine and_congr_right fun _ => forall₂_congr fun settings _ => ?_
  rw [reported_bind_iff]
  refine (and_congr_left' Settings.reported_levelRank_iff).trans
    (and_congr_right fun hname => ?_)
  obtain ⟨rank, hrank⟩ := Settings.exists_levelRank_iff.2 hname
  exact ⟨fun h => (reported_loaded_iff _).1 (h rank hrank),
    fun h rank _ => (reported_loaded_iff _).2 h⟩

/-- The command ends with an outcome exactly if loading is reported at each step and what is loaded
can be told. -/
theorem exists_perform_iff :
    (∃ outcome, perform pipelines carries files environment args = .ok outcome) ↔
      (Settings.FileReported files environment args.settings ∧
        ∀ settings, Settings.load files environment args.settings args.overrides = .ok settings →
          Settings.IsLevelName (levelAsked args settings) ∧ ProgramReported files args.program) ∧
      ∀ loaded, load files environment args = .ok loaded →
        CanTell pipelines carries args loaded := by
  rw [exists_perform_iff_load, reported_load_iff]

end ProseGuard.Command
