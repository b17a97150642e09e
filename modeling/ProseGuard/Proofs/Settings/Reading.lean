import ProseGuard.Proofs.Reported
import ProseGuard.Settings.Load

/-!
# Settings that are reported

What loading settings comes to. Wrong settings are reported, and so is a file that yields no value,
some reasons apart (`reported_load_iff`); that the level they name is one is not asked
(`exists_levelRank_iff`). Main statements: `logLevel_of_load`, by which the level is the text that
the overrides, the file and the standard settings leave under its name, and `load_threshold`, by
which an override of the threshold changes nothing else.
-/

namespace ProseGuard.Settings

open Json (Members)
open Record (Checked)

/-- Why a file yields no value, as far as it is reported of a settings file. -/
def reports : Files.ReadError → Bool
  | .missing | .underFile | .overlong | .unwritable | .embeddedNul | .malformed => true
  | .directory | .undecodable | .tooManyDigits _ | .tooDeep => false

/-- If a settings file is named, what keeps it from being read is reported. -/
def FileReported (files : Files) (environment path : Option Text) : Prop :=
  ∀ name error, fileName? path environment = some name → files.readJson name = .error error →
    reports error

/-- The name is that of a level, case aside. -/
def IsLevelName (name : Text) : Prop :=
  Text.upper name ∈ levelNames.map Prod.fst

variable {κ : Type} {sort : κ → Problem} {files : Files} {environment path : Option Text}
  {overrides : Members} {settings : Settings}

/-- A level has a rank exactly if its name is that of one. -/
theorem exists_levelRank_iff {name : Text} :
    (∃ rank, levelRank name = .ok rank) ↔ IsLevelName name := by
  have hlookup : (levelNames.lookup (Text.upper name)).isSome ↔ IsLevelName name := by
    simp [List.lookup_isSome_iff, IsLevelName]
  rw [← hlookup, levelRank, namedRank]
  cases levelNames.lookup (Text.upper name) with
  | none => simp
  | some rank => simp

/-- Another name is not reported. -/
theorem reported_levelRank_iff {name : Text} :
    Reported sort (levelRank name) ↔ IsLevelName name := by
  rw [← exists_levelRank_iff, levelRank, namedRank]
  cases levelNames.lookup (Text.upper name) with
  | none => exact iff_of_false (not_reported_fault _) fun ⟨_, h⟩ => nomatch h
  | some rank => exact iff_of_true (.value _) ⟨_, rfl⟩

/-- A settings file is read or reported exactly if what keeps it from being read is. -/
theorem reported_readFile_iff (hsort : ∀ problem, ∃ wrong, sort wrong = .configuration problem)
    {name : Text} : Reported sort (readFile files name) ↔
      ∀ error, files.readJson name = .error error → reports error := by
  have htold : ∀ problem, Reported sort
      (.error (.problem (.configuration problem)) : Except Failure Members) := by
    intro problem
    obtain ⟨wrong, hwrong⟩ := hsort problem
    exact .of_sort hwrong
  unfold readFile
  cases files.readJson name with
  | ok value =>
      refine iff_of_true ?_ fun error h => nomatch h
      cases value with
      | object members => exact .value members
      | null | bool _ | integer _ | number _ | string _ | array _ => exact htold _
  | error error =>
      have hall : (∀ other, (.error error : Except Files.ReadError Json) = .error other →
          reports other) ↔ reports error :=
        ⟨fun h => h error rfl, fun h other hother => Except.error.inj hother ▸ h⟩
      rw [hall]
      cases error with
      | missing | underFile | overlong | unwritable | embeddedNul | malformed =>
          exact iff_of_true (htold _) rfl
      | directory | undecodable | tooManyDigits _ | tooDeep =>
          exact iff_of_false (not_reported_fault _) Bool.false_ne_true

/-- The members that the settings file writes; none without a file. -/
def writtenMembers (files : Files) (environment path : Option Text) : Except Failure Members :=
  match fileName? path environment with
  | some name => readFile files name
  | none => .ok []

/-- The members of the standard settings with those of a file written over them, and over both the
overrides. -/
def mergedMembers (written overrides : Members) : Members :=
  overwrite (overwrite defaultMembers written) (effective overrides)

/-- Settings are loaded in two parts: the file is read, and what is merged is checked. -/
theorem load_eq : load files environment path overrides =
    writtenMembers files environment path >>= fun written =>
      ofMerged (mergedMembers written overrides) := by
  unfold load writtenMembers
  cases fileName? path environment <;> rfl

/-- Settings are loaded or reported as wrong exactly if the settings file is. -/
theorem reported_load_iff (hsort : ∀ problem, ∃ wrong, sort wrong = .configuration problem) :
    Reported sort (load files environment path overrides) ↔
      FileReported files environment path := by
  have hmerged : ∀ members, Reported sort (ofMerged members) := fun members =>
    reported_orElse _ fun issues => hsort (.invalid issues)
  rw [load_eq, reported_bind_iff, and_iff_left fun written _ => hmerged _]
  unfold writtenMembers FileReported
  cases fileName? path environment with
  | none => exact iff_of_true (.value _) fun name error h => nomatch h
  | some name =>
      rw [reported_readFile_iff hsort]
      exact ⟨fun h other error hname => Option.some.inj hname ▸ h error,
        fun h error => h name error rfl⟩

/-- Loaded settings are what the merged members write. -/
theorem load_eq_ok_iff : load files environment path overrides = .ok settings ↔
    ∃ written, writtenMembers files environment path = .ok written ∧
      ofMembers (mergedMembers written overrides) = .valid settings := by
  have hchecked : ∀ members, ofMerged members = .ok settings ↔
      ofMembers members = .valid settings := fun members => orElse_eq_ok_iff
  rw [load_eq]
  cases writtenMembers files environment path with
  | error failure => simp [bind, Except.bind]
  | ok written => simp [bind, Except.bind, hchecked]

/-! ## What members come to -/

/-- The members write the settings: each field is that of its member, or the standard one, and
nothing else stands among them. -/
structure Writes (members : Members) (s : Settings) : Prop where
  names_whole : ∀ member ∈ members, member.1.isWhole
  threshold : Record.optional members "distance_threshold" standard.threshold Record.natural =
    .valid s.threshold
  receiver : Record.optional members "receiver"
    ⟨standard.receiver, standard.receiver_ne, standard.receiver_whole⟩ Record.nonEmptyText =
      .valid ⟨s.receiver, s.receiver_ne, s.receiver_whole⟩
  parameterStyle : Record.optional members "parameter_style" standard.parameterStyle
    (Record.choice styleWords) = .valid s.parameterStyle
  source : Record.optional members "proposition_source" standard.source
    (Record.choice sourceWords) = .valid s.source
  pipelineModel : Record.optional members "spacy_model" standard.pipelineModel Record.text =
    .valid s.pipelineModel
  logLevel : Record.optional members "log_level" standard.logLevel Record.text =
    .valid s.logLevel
  only : onlyFields members = .valid ()

variable {members : Members}

/-- Members are read as the settings that they write. -/
theorem ofMembers_eq_valid_iff : ofMembers members = .valid settings ↔ Writes members settings := by
  unfold ofMembers
  split
  · next hwhole =>
    rw [ofNamed]
    simp only [Checked.seq_eq_valid_iff, Checked.map_eq_valid_iff]
    constructor
    · rintro ⟨_, _, ⟨_, _, ⟨_, _, ⟨_, _, ⟨_, _, ⟨_, _, ⟨_, ht, rfl⟩, hr, rfl⟩, hp, rfl⟩, hs, rfl⟩,
        hm, rfl⟩, hl, rfl⟩, ho, rfl⟩
      exact ⟨List.all_eq_true.1 hwhole, ht, hr, hp, hs, hm, hl, ho⟩
    · rintro ⟨-, ht, hr, hp, hs, hm, hl, ho⟩
      exact ⟨_, _, ⟨_, _, ⟨_, _, ⟨_, _, ⟨_, _, ⟨_, _, ⟨_, ht, rfl⟩, hr, rfl⟩, hp, rfl⟩, hs, rfl⟩,
        hm, rfl⟩, hl, rfl⟩, ho, rfl⟩
  · next hwhole =>
    refine iff_of_false ?_ fun h => hwhole (List.all_eq_true.2 h.names_whole)
    rintro ⟨⟩

/-- What was written over members last is found there, else what stands in them. -/
theorem lookup_overwrite (members newer : Members) (key : Text) :
    (overwrite members newer).lookup key =
      (newer.reverse.lookup key).or (members.lookup key) := by
  induction newer generalizing members with
  | nil => rfl
  | cons member newer ih =>
      show (overwrite (Json.put members member.1 member.2) newer).lookup key = _
      rw [ih, Json.lookup_put, List.reverse_cons, List.lookup_append, Option.or_assoc,
        List.lookup_cons]
      by_cases h : key = member.1
      · simp [h]
      · have hne : (key == member.1) = false := by simpa using h
        simp [h, hne]

/-- The level of loaded settings is the text that stands under its name once the file is written
over the standard settings, and the overrides over both. -/
theorem logLevel_of_load (h : load files environment path overrides = .ok settings) :
    ∃ written, writtenMembers files environment path = .ok written ∧
      (mergedMembers written overrides).lookup ("log_level" : Text) =
        some (.string settings.logLevel) := by
  obtain ⟨written, hwritten, hvalid⟩ := load_eq_ok_iff.1 h
  refine ⟨written, hwritten, ?_⟩
  have hfield := (ofMembers_eq_valid_iff.1 hvalid).logLevel
  have hsome : ((mergedMembers written overrides).lookup ("log_level" : Text)).isSome := by
    have hstandard : (defaultMembers.lookup ("log_level" : Text)).isSome := by decide
    simp [mergedMembers, lookup_overwrite, hstandard]
  obtain ⟨value, hvalue⟩ := Option.isSome_iff_exists.1 hsome
  rw [Record.optional, hvalue, Checked.under_eq_valid_iff] at hfield
  cases value with
  | string text => rw [hvalue, Checked.valid.inj hfield]
  | _ => cases hfield

/-- What stands under another name does not matter to a field. -/
theorem optional_put_of_ne {α : Type} {key name : Text} (h : name ≠ key) (value : Json)
    (default : α) (item : Json → Checked α) :
    Record.optional (Json.put members key value) name default item =
      Record.optional members name default item := by
  rw [Record.optional, Json.lookup_put, if_neg h, Record.optional]

/-- A value that is put among members is the only new one. -/
theorem mem_put {key : Text} {value : Json} {member : Text × Json}
    (h : member ∈ Json.put members key value) : member = (key, value) ∨ member ∈ members := by
  induction members with
  | nil => exact .inl (List.mem_singleton.1 h)
  | cons first rest ih =>
      rw [Json.put] at h
      split at h
      · rcases List.mem_cons.1 h with h | h
        · exact .inl h
        · exact .inr (List.mem_cons_of_mem _ h)
      · rcases List.mem_cons.1 h with h | h
        · exact .inr (h ▸ List.mem_cons_self)
        · exact (ih h).imp_right (List.mem_cons_of_mem _)

/-- Only fields stand among members exactly if the name of each is that of a field. -/
theorem onlyFields_eq_valid_iff :
    onlyFields members = .valid () ↔ ∀ member ∈ members, member.1 ∈ fieldNames := by
  have hnone : (members.filter fun member => !fieldNames.contains member.1) = [] ↔
      ∀ member ∈ members, member.1 ∈ fieldNames := by
    simp
  rw [← hnone, onlyFields]
  split
  · next h => exact iff_of_true rfl h
  · next h =>
    refine iff_of_false ?_ h
    rintro ⟨⟩

/-- With a number put under the name of the threshold, members write settings of that threshold,
all else being as it was. -/
theorem Writes.put_threshold (h : Writes members settings) (threshold : Nat) :
    Writes (Json.put members "distance_threshold" (.integer threshold))
      { settings with threshold := threshold } where
  names_whole := by
    intro member hmember
    rcases mem_put hmember with rfl | hmember
    · exact Text.isWhole_ofString _
    · exact h.names_whole member hmember
  threshold := by
    rw [Record.optional, Json.lookup_put, if_pos rfl]
    simp only [Record.natural_integer]
    rfl
  receiver := (optional_put_of_ne (by decide) _ _ _).trans h.receiver
  parameterStyle := (optional_put_of_ne (by decide) _ _ _).trans h.parameterStyle
  source := (optional_put_of_ne (by decide) _ _ _).trans h.source
  pipelineModel := (optional_put_of_ne (by decide) _ _ _).trans h.pipelineModel
  logLevel := (optional_put_of_ne (by decide) _ _ _).trans h.logLevel
  only := by
    refine onlyFields_eq_valid_iff.2 fun member hmember => ?_
    rcases mem_put hmember with rfl | hmember
    · exact List.mem_cons_self
    · exact onlyFields_eq_valid_iff.1 h.only member hmember

/-- An override of the threshold changes nothing else. -/
theorem load_threshold (h : load files environment path [] = .ok settings) (threshold : Nat)
    (hthreshold : effective overrides =
      ([("distance_threshold", .integer threshold)] : Members)) :
    load files environment path overrides = .ok { settings with threshold := threshold } := by
  obtain ⟨written, hwritten, hvalid⟩ := load_eq_ok_iff.1 h
  refine load_eq_ok_iff.2 ⟨written, hwritten, ?_⟩
  rw [ofMembers_eq_valid_iff] at hvalid ⊢
  rw [mergedMembers, hthreshold]
  exact hvalid.put_threshold threshold

end ProseGuard.Settings
