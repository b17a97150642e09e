import ProseGuard.Proofs.Command.Finish

/-!
# Program files that end a run

A program description that is wrong should be reported, and mostly is: as a problem of the library,
and by the command with status 1. Main statement: `programs_reported_iff`, which says of every value
and of the bytes of every file whether it is. `not_reported_latinFiles` shows a file that ends the
run.
-/

namespace ProseGuard.Command

open Comment (Pipelines)

/-- A value is read as a program or reported exactly if it is an object that has a list under the
name of the types or nothing; a file is read as types or as members or reported exactly if it writes
such an object, or if it is missing, a directory or no JSON text. It is not if its bytes are no text
in UTF-8, write an integer of too many digits or are nested too deeply. With settings that are there
and name a level, the command ends with status 0 or 1 exactly if the program file is reported and,
once the program is there, it can be told: the pipeline ends in no fault and the output carries the
guards. -/
theorem programs_reported_iff (pipelines : Pipelines) (carries : Text → Bool) (files : Files)
    (environment : Option Text) :
    (∀ description, Reported Problem.program (Program.ofJson description) ↔
      description.HasListUnder "types") ∧
    (∀ path, Reported Problem.program (Program.load files path) ↔
      Program.Describes files path "types") ∧
    (∀ path, Reported Problem.program (Program.loadMembers files path) ↔
      Program.Describes files path "members") ∧
    ∀ line args settings rank, guardsGrammar.read {} line = .ok args →
      Settings.load files environment args.settings args.overrides = .ok settings →
      levelRank (levelAsked args settings) = .ok rank →
      ((∃ outcome, guards files environment line pipelines carries = .ok outcome ∧
        (outcome.status = 0 ∨ outcome.status = 1)) ↔
          ProgramReported files args.program ∧
            ∀ loaded, load files environment args = .ok loaded →
              CanTell pipelines carries args loaded) := by
  have hsort : ∀ problem, ∃ wrong, Problem.program wrong = .program problem :=
    fun problem => ⟨problem, rfl⟩
  refine ⟨fun description => Program.reported_ofJson_iff hsort,
    fun path => Program.reported_load_iff hsort,
    fun path => Program.reported_loadMembers_iff hsort, ?_⟩
  intro line args settings rank hline hsettings hrank
  rw [guards_of_read hline, exists_status_iff, exists_perform_iff]
  refine and_congr_left' ?_
  have hloaded : Reported Problem.configuration
      (Settings.load files environment args.settings args.overrides) := by
    rw [hsettings]
    exact .value settings
  have hfile : Settings.FileReported files environment args.settings :=
    (Settings.reported_load_iff fun problem => ⟨problem, rfl⟩).1 hloaded
  constructor
  · intro h
    exact (h.2 settings hsettings).2
  · intro h
    refine ⟨hfile, fun other hother => ?_⟩
    obtain rfl : settings = other := Except.ok.inj (hsettings.symm.trans hother)
    exact ⟨Settings.exists_levelRank_iff.1 ⟨rank, hrank⟩, h⟩

/-! ## A file that is reported and one that is not -/

/-- A file whose list of types is a text, each character of which is no type, and whose members are
no list. -/
def wordyFiles : Files :=
  .ofList [("program.json".toUTF8.toList,
    "\x7b\"types\": \"ab\", \"members\": null\x7d".toUTF8)]

/-- A file whose one byte is no text in UTF-8. -/
def latinFiles : Files :=
  .ofList [("program.json".toUTF8.toList, ⟨#[0xFF]⟩)]

/-- A command line that asks for the guards of a program with the pattern source. -/
def patternLine : List Text :=
  ["program.json", "--source", "pattern"]

/-- What that line tells. -/
def patternArguments : GuardsArguments where
  program := "program.json"
  source := some (.value "pattern")

theorem read_patternLine : guardsGrammar.read {} patternLine = .ok patternArguments := by
  with_unfolding_all rfl

/-- Without a settings file the line leads to the standard settings, the source apart. -/
theorem load_patternArguments (files : Files) :
    Settings.load files none patternArguments.settings patternArguments.overrides =
      .ok { Settings.standard with source := .pattern } := by
  with_unfolding_all rfl

theorem levelRank_patternArguments :
    levelRank (levelAsked patternArguments { Settings.standard with source := .pattern }) =
      .ok 30 := by
  with_unfolding_all rfl

/-- No type is valid, so that no program is there. -/
theorem load_wordyFiles : ∃ issues, Program.load wordyFiles patternArguments.program =
    .error (.problem (.program (.invalidTypes issues))) := by
  have hread : wordyFiles.readJson patternArguments.program =
      .ok (.object [("types", .string "ab"), ("members", .null)]) := by
    with_unfolding_all rfl
  simp only [Program.load, hread]
  exact ⟨_, rfl⟩

/-- That the members are no list does not matter, for no type is valid. -/
theorem programReported_wordyFiles : ProgramReported wordyFiles patternArguments.program := by
  have hread : wordyFiles.readJson patternArguments.program =
      .ok (.object [("types", .string "ab"), ("members", .null)]) := by
    with_unfolding_all rfl
  refine ⟨?_, fun p hp => ?_⟩
  · simp only [Program.Describes, hread]
    rintro value ⟨⟩
    rfl
  · obtain ⟨issues, hissues⟩ := load_wordyFiles
    exact nomatch hissues.symm.trans hp

/-- The types that are none are reported, on an output in UTF-8. -/
theorem exists_guards_wordyFiles :
    ∃ outcome, guards wordyFiles none patternLine .absent Text.isWhole = .ok outcome ∧
      (outcome.status = 0 ∨ outcome.status = 1) := by
  refine ((programs_reported_iff .absent Text.isWhole wordyFiles none).2.2.2 _ _ _ _
    read_patternLine (load_patternArguments wordyFiles) levelRank_patternArguments).2
      ⟨programReported_wordyFiles, fun loaded hloaded => ?_⟩
  -- nothing is loaded that would have to be told
  obtain ⟨issues, hissues⟩ := load_wordyFiles
  rw [load_of_settings (load_patternArguments wordyFiles) levelRank_patternArguments,
    hissues] at hloaded
  exact nomatch hloaded

/-- Bytes that are no text end the run of every reader, as a list does in place of an object. -/
theorem not_reported_latinFiles :
    ¬ Reported Problem.program (Program.load latinFiles "program.json") ∧
    ¬ Reported Problem.program (Program.loadMembers latinFiles "program.json") ∧
    ¬ Reported Problem.program (Program.ofJson (.array [])) ∧
    guards latinFiles none patternLine .absent Text.isWhole = .error (.fault .undecodable) := by
  have hread : latinFiles.readJson "program.json" = .error .undecodable := by
    with_unfolding_all rfl
  have hload : Program.load latinFiles "program.json" = .error (.fault .undecodable) := by
    rw [Program.load, hread]
    rfl
  refine ⟨?_, ?_, not_reported_fault _, ?_⟩
  · rw [hload]
    exact not_reported_fault _
  · rw [Program.loadMembers, hread]
    exact not_reported_fault _
  · have hfail : load latinFiles none patternArguments = .error (.fault .undecodable) := by
      rw [load_of_settings (load_patternArguments latinFiles) levelRank_patternArguments]
      show (Program.load latinFiles "program.json" >>= _) = _
      rw [hload]
      rfl
    rw [guards_of_read read_patternLine, perform, hfail]

end ProseGuard.Command
