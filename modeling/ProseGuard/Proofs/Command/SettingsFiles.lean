import ProseGuard.Proofs.Command.Finish

/-!
# Settings files that end a run

Wrong settings should be caught when they are loaded, and so should a settings file that cannot be
read. Main statement: `settings_caught_iff`, which says when they are: loading checks of the level
only that it is a text, and names that are none come out where the log is set up.
`uncaught_loudFiles` shows a file that ends the run of both commands.
-/

namespace ProseGuard.Command

open Comment (Pipelines)

variable {files : Files} {environment : Option Text} {launch : Launch}

/-- Wrong settings are caught: loading reports them, or leads to settings by which the log can be
set up. -/
def Caught (loaded : Except Failure Settings) : Prop :=
  (∃ problem, loaded = .error (.problem (.configuration problem))) ∨
    ∃ settings rank, loaded = .ok settings ∧ levelRank settings.logLevel = .ok rank

/-- They are caught exactly if loading reports them and settings that it leads to name a level. -/
theorem caught_iff {loaded : Except Failure Settings} :
    Caught loaded ↔ Reported Problem.configuration loaded ∧
      ∀ settings, loaded = .ok settings → Settings.IsLevelName settings.logLevel := by
  constructor
  · rintro (⟨problem, rfl⟩ | ⟨settings, rank, rfl, hrank⟩)
    · exact ⟨.told problem, fun settings h => nomatch h⟩
    · refine ⟨.value settings, fun other hother => ?_⟩
      obtain rfl : settings = other := Except.ok.inj hother
      exact Settings.exists_levelRank_iff.1 ⟨rank, hrank⟩
  · rintro ⟨hreported, hlevel⟩
    cases hreported with
    | value settings =>
        obtain ⟨rank, hrank⟩ := Settings.exists_levelRank_iff.2 (hlevel settings rfl)
        exact .inr ⟨settings, rank, rfl, hrank⟩
    | told problem => exact .inl ⟨problem, rfl⟩

/-- The serve command checks the settings just so. -/
theorem reported_checkedSettings_iff : Reported id (checkedSettings files environment) ↔
    Caught (Settings.load files environment none []) := by
  have hsort : ∀ problem, ∃ wrong, id wrong = Problem.configuration problem :=
    fun problem => ⟨_, rfl⟩
  rw [caught_iff, checkedSettings, reported_bind_iff, Settings.reported_load_iff hsort,
    Settings.reported_load_iff fun problem => ⟨problem, rfl⟩]
  refine and_congr_right fun _ => forall₂_congr fun settings _ => ?_
  rw [reported_bind_iff, Settings.reported_levelRank_iff]
  exact and_iff_left fun _ _ => .value _

/-- A service is started, or the command ends with status 1, exactly if the settings are caught. -/
theorem prepare_ends_iff : (prepare files environment launch = .ok (.launch launch) ∨
    ∃ outcome, prepare files environment launch = .ok (.stopped outcome) ∧ outcome.status = 1) ↔
      Caught (Settings.load files environment none []) := by
  rw [← reported_checkedSettings_iff, prepare]
  cases checkedSettings files environment with
  | ok settings => exact iff_of_true (.inl rfl) (.value settings)
  | error failure =>
      cases failure with
      | problem problem => exact iff_of_true (.inr ⟨_, rfl, rfl⟩) (.told problem)
      | fault fault =>
          refine iff_of_false ?_ (not_reported_fault fault)
          rintro (⟨⟨⟩⟩ | ⟨outcome, ⟨⟩, -⟩)

/-- Settings are caught exactly if what keeps the settings file from being read is reported, which
excepts a directory, bytes that are no text in UTF-8, an integer of too many digits and values
nested too deeply, and if settings that are loaded name a level. That name is any text that the
overrides, the file and the standard settings leave there. The serve command starts a service or
ends with status 1 exactly if the settings are caught. The guards command ends with status 0 or 1
exactly if the settings file is reported, once there are settings they name a level and the program
file is reported, and once there is a program it can be told: the pipeline ends in no fault and the
output carries the guards. -/
theorem settings_caught_iff (pipelines : Pipelines) (carries : Text → Bool) (files : Files)
    (environment : Option Text) :
    (∀ path overrides, Caught (Settings.load files environment path overrides) ↔
      Settings.FileReported files environment path ∧
        ∀ settings, Settings.load files environment path overrides = .ok settings →
          Settings.IsLevelName settings.logLevel) ∧
    (∀ path overrides settings,
      Settings.load files environment path overrides = .ok settings →
        ∃ written, Settings.writtenMembers files environment path = .ok written ∧
          (Settings.mergedMembers written overrides).lookup ("log_level" : Text) =
            some (.string settings.logLevel)) ∧
    (∀ line launch, serveGrammar.read {} line = .ok launch →
      ((serve files environment line = .ok (.launch launch) ∨ ∃ outcome,
        serve files environment line = .ok (.stopped outcome) ∧ outcome.status = 1) ↔
          Caught (Settings.load files environment none []))) ∧
    ∀ line args, guardsGrammar.read {} line = .ok args →
      ((∃ outcome, guards files environment line pipelines carries = .ok outcome ∧
        (outcome.status = 0 ∨ outcome.status = 1)) ↔
          (Settings.FileReported files environment args.settings ∧
            ∀ settings, Settings.load files environment args.settings args.overrides =
              .ok settings → Settings.IsLevelName (levelAsked args settings) ∧
                ProgramReported files args.program) ∧
          ∀ loaded, load files environment args = .ok loaded →
            CanTell pipelines carries args loaded) := by
  refine ⟨fun path overrides => ?_, fun path overrides settings h =>
    Settings.logLevel_of_load h, fun line launch hline => ?_, fun line args hline => ?_⟩
  · rw [caught_iff, Settings.reported_load_iff fun problem => ⟨problem, rfl⟩]
  · rw [serve, hline]
    exact prepare_ends_iff
  · rw [guards_of_read hline, exists_status_iff]
    exact exists_perform_iff

/-! ## A settings file that is caught and one that is not -/

/-- A settings file that names a level in another case. -/
def quietFiles : Files :=
  .ofList [("settings.json".toUTF8.toList, "\x7b\"log_level\": \"error\"\x7d".toUTF8)]

/-- A settings file whose level is a text, but the name of none. -/
def loudFiles : Files :=
  .ofList [("settings.json".toUTF8.toList, "\x7b\"log_level\": \"LOUD\"\x7d".toUTF8)]

theorem load_quietFiles : Settings.load quietFiles (some "settings.json") none [] =
    .ok { Settings.standard with logLevel := "error" } := by
  with_unfolding_all rfl

theorem load_loudFiles : Settings.load loudFiles (some "settings.json") none [] =
    .ok { Settings.standard with logLevel := "LOUD" } := by
  with_unfolding_all rfl

theorem read_noWords : serveGrammar.read {} [] = .ok {} := by
  with_unfolding_all rfl

theorem serve_quietFiles : serve quietFiles (some "settings.json") [] = .ok (.launch {}) ∨
    ∃ outcome, serve quietFiles (some "settings.json") [] = .ok (.stopped outcome) ∧
      outcome.status = 1 := by
  have hrank : levelRank "error" = .ok 40 := by
    with_unfolding_all rfl
  exact ((settings_caught_iff .absent Text.isWhole quietFiles (some "settings.json")).2.2.1 [] {}
    read_noWords).2 (.inr ⟨_, _, load_quietFiles, hrank⟩)

/-- The settings are there and end the run of each command in which they are used. -/
theorem uncaught_loudFiles :
    (∃ settings, Settings.load loudFiles (some "settings.json") none [] = .ok settings ∧
      levelRank settings.logLevel = .error (.fault (.unknownLevel "LOUD"))) ∧
    ¬ Caught (Settings.load loudFiles (some "settings.json") none []) ∧
    serve loudFiles (some "settings.json") [] = .error (.fault (.unknownLevel "LOUD")) ∧
    guards loudFiles (some "settings.json") ["program.json"] .absent Text.isWhole =
      .error (.fault (.unknownLevel "LOUD")) := by
  have hrank : levelRank "LOUD" = .error (.fault (.unknownLevel "LOUD")) := by
    with_unfolding_all rfl
  refine ⟨⟨_, load_loudFiles, hrank⟩, ?_, ?_, ?_⟩
  · rintro (⟨problem, h⟩ | ⟨settings, rank, h, hok⟩)
    · exact nomatch load_loudFiles.symm.trans h
    · obtain rfl := Except.ok.inj (load_loudFiles.symm.trans h)
      exact nomatch hrank.symm.trans hok
  · with_unfolding_all rfl
  · with_unfolding_all rfl

end ProseGuard.Command
