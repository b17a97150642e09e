import ProseGuard.Proofs.Settings.Fields

/-!
# Which value a setting has

Settings come from three layers: the standard ones, the object that a settings file holds, and the
overrides that are not null. A name has the value of the last layer that says one, whatever the
others say. Main statement: `load_precedence`, by which settings load exactly if every name that has
a value is that of a field which takes it, and then hold what the fields take these values as.
-/

namespace ProseGuard.Settings

open Json (Members)
open Record (Checked)

/-! ## Layers -/

/-- A settings file is named by what is asked for or, where nothing is, by the environment. The
empty text names none. -/
inductive Named (environment path : Option Text) (name : Text) : Prop
  | asked : path = some name → name ≠ [] → Named environment path name
  | environment : path = none ∨ path = some [] → environment = some name → name ≠ [] →
      Named environment path name

/-- What the settings file that is named holds: the members of an object. Without a name these are
none. -/
inductive Holds (files : Files) (environment path : Option Text) : Members → Prop
  | file {name : Text} {members : Members} : Named environment path name →
      files.readJson name = .ok (.object members) → Holds files environment path members
  | nothing : (∀ name, ¬ Named environment path name) → Holds files environment path []

/-- The value that members say a name has: that of the last member of this name. -/
def Says (members : Members) (name : Text) (value : Json) : Prop :=
  ∃ before behind, members = before ++ (name, value) :: behind ∧
    ∀ member ∈ behind, member.1 ≠ name

/-- The value that a name has: that of the last of three layers that says one, where the overrides
stand over the file and this over the standard settings. -/
inductive Stands (written overrides : Members) (name : Text) (value : Json) : Prop
  | override : Says (effective overrides) name value → Stands written overrides name value
  | file : (∀ other, ¬ Says (effective overrides) name other) → Says written name value →
      Stands written overrides name value
  | standard : (∀ other, ¬ Says (effective overrides) name other) →
      (∀ other, ¬ Says written name other) → Says defaultMembers name value →
      Stands written overrides name value

variable {files : Files} {environment path : Option Text}
  {members written other overrides : Members} {name : Text} {value : Json} {s : Settings}

/-- The file that is read is the one that is named. -/
theorem fileName?_eq_some_iff : fileName? path environment = some name ↔
    Named environment path name := by
  have hnonempty : ∀ {asked : Option Text} {found : Text},
      (asked.filter fun name => !name.isEmpty) = some found ↔ asked = some found ∧ found ≠ [] := by
    intro asked found
    rw [Option.filter_eq_some_iff, Bool.not_eq_true', List.isEmpty_eq_false_iff]
  rw [fileName?]
  cases hasked : path.filter fun name => !name.isEmpty with
  | some found =>
      obtain ⟨rfl, hne⟩ := hnonempty.1 hasked
      constructor
      · rintro ⟨⟩
        exact .asked rfl hne
      · rintro (⟨h, -⟩ | ⟨h | h, -, -⟩)
        · exact h
        · exact nomatch h
        · exact absurd (Option.some.inj h) hne
  | none =>
      have hnothing : path = none ∨ path = some [] := by
        cases path with
        | none => exact .inl rfl
        | some found =>
            refine .inr (congrArg some (Decidable.byContradiction fun hne => ?_))
            exact nomatch hasked.symm.trans (hnonempty.2 ⟨rfl, hne⟩)
      constructor
      · intro h
        obtain ⟨henvironment, hne⟩ := hnonempty.1 h
        exact .environment hnothing henvironment hne
      · rintro (⟨hpath, hne⟩ | ⟨-, henvironment, hne⟩)
        · exact nomatch hasked.symm.trans (hnonempty.2 ⟨hpath, hne⟩)
        · exact hnonempty.2 ⟨henvironment, hne⟩

/-- A settings file is read as the members of the object that it writes. -/
theorem readFile_eq_ok_iff : readFile files name = .ok members ↔
    files.readJson name = .ok (.object members) := by
  rw [readFile]
  cases files.readJson name with
  | ok value => cases value <;> simp
  | error error => cases error <;> simp

/-- What the settings file holds is what it writes. -/
theorem holds_iff : Holds files environment path written ↔
    writtenMembers files environment path = .ok written := by
  have hnone : fileName? path environment = none ↔ ∀ name, ¬ Named environment path name := by
    simp only [Option.eq_none_iff_forall_ne_some, Ne, fileName?_eq_some_iff]
  rw [writtenMembers]
  constructor
  · intro h
    cases h with
    | file hname hread =>
        rw [fileName?_eq_some_iff.2 hname]
        exact readFile_eq_ok_iff.2 hread
    | nothing hnothing => rw [hnone.2 hnothing]
  · cases hfile : fileName? path environment with
    | none =>
        rintro ⟨⟩
        exact .nothing (hnone.1 hfile)
    | some name => exact fun h => .file (fileName?_eq_some_iff.1 hfile) (readFile_eq_ok_iff.1 h)

/-- What members say of a name is what is found first from their end. -/
theorem says_iff : Says members name value ↔ members.reverse.lookup name = some value := by
  rw [List.lookup_eq_some_iff]
  constructor
  · rintro ⟨before, behind, rfl, hbehind⟩
    refine ⟨behind.reverse, before.reverse, by simp, fun member hmember => ?_⟩
    exact bne_iff_ne.2 (hbehind member (List.mem_reverse.1 hmember)).symm
  · rintro ⟨behind, before, hmembers, hbehind⟩
    refine ⟨before.reverse, behind.reverse, ?_, fun member hmember => ?_⟩
    · rw [← List.reverse_reverse members, hmembers]
      simp
    · exact (bne_iff_ne.1 (hbehind member (List.mem_reverse.1 hmember))).symm

/-- Members say nothing of a name exactly if it is not found from their end. -/
theorem not_says_iff :
    (∀ value, ¬ Says members name value) ↔ members.reverse.lookup name = none := by
  simp only [says_iff, Option.eq_none_iff_forall_ne_some]

/-- What stands under a name is what is found once the three layers are merged. -/
theorem stands_iff : Stands written overrides name value ↔
    (mergedMembers written overrides).lookup name = some value := by
  have hstandard : defaultMembers.lookup name = defaultMembers.reverse.lookup name := by
    have hwritten : overwrite [] defaultMembers = defaultMembers := rfl
    rw [← hwritten, lookup_overwrite, List.lookup_nil, Option.or_none, hwritten]
  rw [mergedMembers, lookup_overwrite, lookup_overwrite, hstandard]
  constructor
  · rintro (h | ⟨hoverrides, h⟩ | ⟨hoverrides, hfile, h⟩)
    · rw [says_iff.1 h, Option.some_or]
    · rw [not_says_iff.1 hoverrides, says_iff.1 h, Option.none_or, Option.some_or]
    · rw [not_says_iff.1 hoverrides, not_says_iff.1 hfile, says_iff.1 h, Option.none_or,
        Option.none_or]
  · intro h
    cases hoverrides : (effective overrides).reverse.lookup name with
    | some found =>
        rw [hoverrides, Option.some_or] at h
        exact .override (says_iff.2 (hoverrides.trans h))
    | none =>
        rw [hoverrides, Option.none_or] at h
        cases hfile : written.reverse.lookup name with
        | some found =>
            rw [hfile, Option.some_or] at h
            exact .file (not_says_iff.2 hoverrides) (says_iff.2 (hfile.trans h))
        | none =>
            rw [hfile, Option.none_or] at h
            exact .standard (not_says_iff.2 hoverrides) (not_says_iff.2 hfile) (says_iff.2 h)

/-- A name has one value. -/
theorem Stands.unique {found : Json} (h : Stands written overrides name value)
    (hfound : Stands written overrides name found) : value = found :=
  Option.some.inj ((stands_iff.1 h).symm.trans (stands_iff.1 hfound))

/-- What a file says of names that overrides replace does not matter. -/
theorem Stands.of_agree (h : Stands written overrides name value)
    (hagree : (∃ found, Says (effective overrides) name found) ∨
      ∀ found, Says other name found ↔ Says written name found) :
    Stands other overrides name value := by
  cases h with
  | override h => exact .override h
  | file hoverrides h =>
      rcases hagree with ⟨found, hfound⟩ | hagree
      · exact absurd hfound (hoverrides found)
      · exact .file hoverrides ((hagree value).2 h)
  | standard hoverrides hfile h =>
      rcases hagree with ⟨found, hfound⟩ | hagree
      · exact absurd hfound (hoverrides found)
      · exact .standard hoverrides (fun found hfound => hfile found ((hagree found).1 hfound)) h

/-- Settings that are written say what each field takes as its content. -/
theorem exists_says_toMembers (s : Settings) (field : Field) :
    ∃ value, Says s.toMembers field.name value ∧ field.Takes value (field.of s) := by
  cases field with
  | threshold => exact ⟨.integer s.threshold, says_iff.2 rfl, .integer _⟩
  | receiver => exact ⟨.string s.receiver, says_iff.2 rfl, rfl⟩
  | parameterStyle => exact ⟨.string s.parameterStyle.word, says_iff.2 rfl, rfl⟩
  | source => exact ⟨.string s.source.word, says_iff.2 rfl, rfl⟩
  | pipelineModel => exact ⟨.string s.pipelineModel, says_iff.2 rfl, rfl⟩
  | logLevel => exact ⟨.string s.logLevel, says_iff.2 rfl, rfl⟩

/-- Settings that are written say nothing of other names. -/
theorem exists_field_of_says_toMembers (h : Says s.toMembers name value) :
    ∃ field : Field, field.name = name := by
  have hnames : s.toMembers.map Prod.fst = fieldNames := rfl
  have hmem : (name, value) ∈ s.toMembers :=
    List.mem_reverse.1 (Record.mem_of_lookup_eq_some (says_iff.1 h))
  exact mem_fieldNames_iff.1 (hnames ▸ List.mem_map_of_mem hmem)

/-- Every field has a value, be it the standard one. -/
theorem exists_stands (written overrides : Members) (field : Field) :
    ∃ value, Stands written overrides field.name value := by
  by_cases hoverrides : ∃ value, Says (effective overrides) field.name value
  · exact hoverrides.imp fun _ h => .override h
  · by_cases hfile : ∃ value, Says written field.name value
    · exact hfile.imp fun _ h => .file (not_exists.1 hoverrides) h
    · obtain ⟨value, h, -⟩ := exists_says_toMembers standard field
      exact ⟨value, .standard (not_exists.1 hoverrides) (not_exists.1 hfile) h⟩

/-! ## Loading -/

/-- Settings are loaded exactly if only fields are named and each takes its value as what the
settings hold there. -/
theorem load_eq_ok_iff_stands (h : Holds files environment path written) :
    load files environment path overrides = .ok s ↔
      (∀ name value, Stands written overrides name value → ∃ field : Field, field.name = name) ∧
        ∀ field : Field, ∃ value, Stands written overrides field.name value ∧
          field.Takes value (field.of s) := by
  rw [load_eq_ok_iff, holds_iff.1 h]
  simp only [Except.ok.injEq, exists_eq_left', ofMembers_eq_valid_iff, writes_iff]
  refine and_congr ⟨fun hnames name value hstands => ?_, fun hnames member hmember => ?_⟩
    (forall_congr' fun field => ?_)
  · exact hnames (name, value) (Record.mem_of_lookup_eq_some (stands_iff.1 hstands))
  · have hsome : ((mergedMembers written overrides).lookup member.1).isSome :=
      List.lookup_isSome_iff.2 ⟨member, hmember, beq_self_eq_true _⟩
    obtain ⟨value, hvalue⟩ := Option.isSome_iff_exists.1 hsome
    exact hnames member.1 value (stands_iff.2 hvalue)
  · obtain ⟨value, hstands⟩ := exists_stands written overrides field
    rw [Record.optional, stands_iff.1 hstands]
    dsimp only
    rw [Checked.under_eq_valid_iff, Field.read_eq_valid_iff]
    refine ⟨fun htakes => ⟨value, hstands, htakes⟩, ?_⟩
    rintro ⟨found, hfound, htakes⟩
    rwa [hstands.unique hfound]

/-- Once the file is read, settings are loaded or the values are reported as wrong. -/
theorem load_cases (h : Holds files environment path written) (overrides : Members) :
    (∃ s, load files environment path overrides = .ok s) ∨
      ∃ issues, load files environment path overrides =
        .error (.problem (.configuration (.invalid issues))) := by
  rw [load_eq, holds_iff.1 h]
  show (∃ s, ofMerged (mergedMembers written overrides) = .ok s) ∨ ∃ issues,
    ofMerged (mergedMembers written overrides) =
      .error (.problem (.configuration (.invalid issues)))
  rw [ofMerged]
  cases ofMembers (mergedMembers written overrides) with
  | valid s => exact .inl ⟨s, rfl⟩
  | invalid issues => exact .inr ⟨issues, rfl⟩

/-- Settings are loaded exactly if every name that has a value is that of a field which takes it. -/
theorem exists_load_iff (h : Holds files environment path written) :
    (∃ s, load files environment path overrides = .ok s) ↔
      ∀ name value, Stands written overrides name value →
        ∃ field : Field, field.name = name ∧ ∃ content, field.Takes value content := by
  constructor
  · rintro ⟨s, hload⟩ name value hstands
    obtain ⟨hnames, hfields⟩ := (load_eq_ok_iff_stands h).1 hload
    obtain ⟨field, rfl⟩ := hnames name value hstands
    obtain ⟨found, hfound, htakes⟩ := hfields field
    exact ⟨field, rfl, field.of s, hstands.unique hfound ▸ htakes⟩
  · intro hvalid
    have hcontent : ∀ field : Field, ∃ content, ∃ value,
        Stands written overrides field.name value ∧ field.Takes value content := by
      intro field
      obtain ⟨value, hstands⟩ := exists_stands written overrides field
      obtain ⟨found, hname, content, htakes⟩ := hvalid field.name value hstands
      obtain rfl : found = field := Field.name_injective hname
      exact ⟨content, value, hstands, htakes⟩
    choose content hcontent using hcontent
    refine ⟨ofContents content, (load_eq_ok_iff_stands h).2 ⟨fun name value hstands => ?_,
      fun field => ?_⟩⟩
    · exact (hvalid name value hstands).imp fun _ => And.left
    · rw [of_ofContents]
      exact hcontent field

/-- Settings are loaded by the values of names alone. -/
theorem load_iff_of_stands_iff {files' : Files} {environment' path' : Option Text}
    {overrides' : Members} (h : Holds files environment path written)
    (hother : Holds files' environment' path' other)
    (hstands : ∀ name value, Stands other overrides' name value ↔
      Stands written overrides name value) :
    load files' environment' path' overrides' = .ok s ↔
      load files environment path overrides = .ok s := by
  rw [load_eq_ok_iff_stands h, load_eq_ok_iff_stands hother]
  simp only [hstands]

/-- Settings are loaded where file and overrides name fields only and each field takes its value as
what the settings hold there. -/
theorem load_of_names (h : Holds files environment path written)
    (hoverrides : ∀ name value, Says (effective overrides) name value →
      ∃ field : Field, field.name = name)
    (hfile : ∀ name value, Says written name value → ∃ field : Field, field.name = name)
    (hfields : ∀ field : Field, ∃ value, Stands written overrides field.name value ∧
      field.Takes value (field.of s)) : load files environment path overrides = .ok s := by
  refine (load_eq_ok_iff_stands h).2 ⟨fun name value hstands => ?_, hfields⟩
  cases hstands with
  | override hsays => exact hoverrides name value hsays
  | file _ hsays => exact hfile name value hsays
  | standard _ _ hsays => exact exists_field_of_says_toMembers hsays

/-- Settings that are written are loaded again from a file that holds them. -/
theorem load_of_written (h : Holds files environment path s.toMembers) :
    load files environment path [] = .ok s := by
  have hnothing : ∀ name value, ¬ Says (effective []) name value :=
    fun name value hsays => nomatch says_iff.1 hsays
  refine load_of_names h (fun name value hsays => absurd hsays (hnothing name value))
    (fun name value => exists_field_of_says_toMembers) fun field => ?_
  obtain ⟨value, hsays, htakes⟩ := exists_says_toMembers s field
  exact ⟨value, .file (hnothing field.name) hsays, htakes⟩

/-- Settings that are written override a file of fields altogether. -/
theorem load_of_overrides (h : Holds files environment path written)
    (hfile : ∀ name value, Says written name value → ∃ field : Field, field.name = name) :
    load files environment path s.toMembers = .ok s := by
  have heffective : effective s.toMembers = s.toMembers := rfl
  refine load_of_names h (fun name value hsays => ?_) hfile fun field => ?_
  · exact exists_field_of_says_toMembers (heffective ▸ hsays)
  · obtain ⟨value, hsays, htakes⟩ := exists_says_toMembers s field
    exact ⟨value, .override (heffective.symm ▸ hsays), htakes⟩

/-- Settings are loaded exactly if every name that has a value in the three layers is that of a
field which takes it, whatever stands in the layers below; else the values are reported as wrong.
Each field then holds what its value is taken as. So the settings are the same for files that differ
in names alone which overrides replace, and settings that were loaded and written are loaded again,
from a file that holds them as well as where they override a file of fields. -/
theorem load_precedence (h : Holds files environment path written) (overrides : Members) :
    ((∃ s, load files environment path overrides = .ok s) ↔
      ∀ name value, Stands written overrides name value →
        ∃ field : Field, field.name = name ∧ ∃ content, field.Takes value content) ∧
    ((∃ s, load files environment path overrides = .ok s) ∨ ∃ issues,
      load files environment path overrides =
        .error (.problem (.configuration (.invalid issues)))) ∧
    (∀ s, load files environment path overrides = .ok s → ∀ field : Field,
      ∃ value, Stands written overrides field.name value ∧
        ∀ content, field.Takes value content ↔ field.of s = content) ∧
    (∀ files' environment' path' other, Holds files' environment' path' other →
      (∀ name, (∃ value, Says (effective overrides) name value) ∨
        ∀ value, Says other name value ↔ Says written name value) →
      ∀ s, load files' environment' path' overrides = .ok s ↔
        load files environment path overrides = .ok s) ∧
    ∀ s, load files environment path overrides = .ok s → ∀ files' environment' path',
      (Holds files' environment' path' s.toMembers → load files' environment' path' [] = .ok s) ∧
      ∀ other, Holds files' environment' path' other →
        (∀ name value, Says other name value → ∃ field : Field, field.name = name) →
        load files' environment' path' s.toMembers = .ok s := by
  refine ⟨exists_load_iff h, load_cases h overrides, fun s hload field => ?_,
    fun files' environment' path' other hother hagree s => ?_, fun s _ files' environment' path' =>
      ⟨load_of_written, fun other hother hnames => load_of_overrides hother hnames⟩⟩
  · obtain ⟨value, hstands, htakes⟩ := ((load_eq_ok_iff_stands h).1 hload).2 field
    refine ⟨value, hstands, fun content => ?_⟩
    rw [← Field.read_eq_valid_iff] at htakes ⊢
    rw [htakes, Checked.valid.injEq]
  · refine load_iff_of_stands_iff h hother fun name value => ⟨fun hstands => ?_, fun hstands => ?_⟩
    · exact hstands.of_agree ((hagree name).imp_right fun hsame found => (hsame found).symm)
    · exact hstands.of_agree (hagree name)

/-! ## A file whose wrong values are replaced -/

/-- A settings file with a threshold and a model that no field takes. -/
def mixedFiles : Files :=
  .ofList [("settings.json".toUTF8.toList,
    "\x7b\"distance_threshold\": -1, \"receiver\": \"self_\", \"spacy_model\": null\x7d".toUTF8)]

/-- What stands in the file. -/
def mixedMembers : Members := [
  ("distance_threshold", .integer (-1)), ("receiver", .string "self_"), ("spacy_model", .null)]

/-- Overrides of both, one of them a text that writes a number, and a third that says nothing. -/
def mixedOverrides : Members := [
  ("spacy_model", .string "en"), ("receiver", .null), ("distance_threshold", .string " 4 ")]

/-- The settings that the layers come to. -/
def mixedSettings : Settings :=
  { Settings.standard with
    threshold := 4, receiver := "self_", pipelineModel := "en"
    receiver_ne := by decide, receiver_whole := Text.isWhole_ofString "self_" }

theorem holds_mixedFiles : Holds mixedFiles (some "settings.json") (some "") mixedMembers :=
  .file (.environment (.inr rfl) rfl (by decide)) (by with_unfolding_all rfl)

theorem load_mixedFiles : load mixedFiles (some "settings.json") (some "") mixedOverrides =
    .ok mixedSettings := by
  with_unfolding_all rfl

theorem holds_noFiles : Holds (.ofList []) none none [] :=
  .nothing fun name hnamed => by
    rcases hnamed with ⟨h, -⟩ | ⟨-, h, -⟩
    · exact nomatch h
    · exact nomatch h

/-- The file that the environment names yields the receiver, and the overrides the rest that they
say. The settings are loaded again where they are all that is said; without the overrides the file
is wrong. -/
theorem load_precedence_mixedFiles :
    Holds mixedFiles (some "settings.json") (some "") mixedMembers ∧
    load mixedFiles (some "settings.json") (some "") mixedOverrides = .ok mixedSettings ∧
    (∀ field : Field, ∃ value, Stands mixedMembers mixedOverrides field.name value ∧
      ∀ content, field.Takes value content ↔ field.of mixedSettings = content) ∧
    load (.ofList []) none none mixedSettings.toMembers = .ok mixedSettings ∧
    load mixedFiles (some "settings.json") (some "") [] =
      .error (.problem (.configuration (.invalid [
        ⟨[.field "distance_threshold"], .belowMinimum⟩, ⟨[.field "spacy_model"], .notText⟩]))) := by
  obtain ⟨-, -, hfields, -, hagain⟩ := load_precedence holds_mixedFiles mixedOverrides
  refine ⟨holds_mixedFiles, load_mixedFiles, hfields _ load_mixedFiles, ?_,
    by with_unfolding_all rfl⟩
  exact (hagain _ load_mixedFiles _ _ _).2 [] holds_noFiles fun name value hsays =>
    nomatch says_iff.1 hsays

end ProseGuard.Settings
