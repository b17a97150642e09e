import Mathlib.Data.List.Nodup
import ProseGuard.Proofs.Record.Values
import ProseGuard.Proofs.Settings.Reading

/-!
# The fields of settings

What each field holds, which values it takes, and as what. Main statements: `read_eq_valid_iff`, by
which a value is read as what the field takes it as, and `writes_iff`, by which members write
settings exactly if they name fields only and each reads as what the settings hold.
-/

namespace ProseGuard.Settings

open Json (Members)
open Record (Checked CountsAs)

/-- The fields of settings. -/
inductive Field where
  | threshold
  | receiver
  | parameterStyle
  | source
  | pipelineModel
  | logLevel

/-- The name of a field. -/
def Field.name : Field → Text
  | threshold => "distance_threshold"
  | receiver => "receiver"
  | parameterStyle => "parameter_style"
  | source => "proposition_source"
  | pipelineModel => "spacy_model"
  | logLevel => "log_level"

/-- All fields, in order. -/
def fields : List Field := [
  .threshold, .receiver, .parameterStyle, .source, .pipelineModel, .logLevel]

/-- What a field holds. -/
def Field.Content : Field → Type
  | threshold => Nat
  | receiver => Record.NonEmptyText
  | parameterStyle => ParameterStyle
  | source => SourceKind
  | pipelineModel => Text
  | logLevel => Text

/-- What a field of the settings holds. -/
def Field.of (s : Settings) : (field : Field) → field.Content
  | threshold => s.threshold
  | receiver => ⟨s.receiver, s.receiver_ne, s.receiver_whole⟩
  | parameterStyle => s.parameterStyle
  | source => s.source
  | pipelineModel => s.pipelineModel
  | logLevel => s.logLevel

/-- The settings whose fields hold what is given. -/
def ofContents (content : (field : Field) → field.Content) : Settings where
  threshold := content .threshold
  receiver := (content .receiver).1
  parameterStyle := content .parameterStyle
  source := content .source
  pipelineModel := content .pipelineModel
  logLevel := content .logLevel
  receiver_ne := (content .receiver).2.1
  receiver_whole := (content .receiver).2.2

/-- The field takes the value as the content: a number that the value counts as, or the text that it
is, where this is the word for a style or a source among them. -/
def Field.Takes : (field : Field) → Json → field.Content → Prop
  | threshold, value, (number : Nat) => CountsAs value number
  | receiver, value, text => value = .string text.1
  | parameterStyle, value, style => value = .string (ParameterStyle.word style)
  | source, value, kind => value = .string (SourceKind.word kind)
  | pipelineModel, value, text => value = .string text
  | logLevel, value, text => value = .string text

/-- How the value of a field is read. -/
def Field.read : (field : Field) → Json → Checked field.Content
  | threshold => Record.natural
  | receiver => Record.nonEmptyText
  | parameterStyle => Record.choice styleWords
  | source => Record.choice sourceWords
  | pipelineModel => Record.text
  | logLevel => Record.text

/-- The fields of settings hold what they are made of. -/
theorem of_ofContents (content : (field : Field) → field.Content) (field : Field) :
    field.of (ofContents content) = content field := by
  cases field <;> rfl

/-- All fields are listed. -/
theorem mem_fields (field : Field) : field ∈ fields := by
  cases field <;> simp [fields]

/-- A name is among those of the fields exactly if some field has it. -/
theorem mem_fieldNames_iff {name : Text} :
    name ∈ fieldNames ↔ ∃ field : Field, field.name = name := by
  have hnames : fieldNames = fields.map Field.name := rfl
  simp [hnames, mem_fields]

/-- The name tells the field. -/
theorem Field.name_injective {field other : Field} (h : field.name = other.name) :
    field = other := by
  have hnodup : (fields.map Field.name).Nodup := by decide
  exact List.inj_on_of_nodup_map hnodup (mem_fields field) (mem_fields other) h

/-- A value is read as a parameter style if it is the word for that. -/
theorem choice_styleWords_eq_valid_iff {value : Json} {style : ParameterStyle} :
    Record.choice styleWords value = .valid style ↔ value = .string style.word := by
  refine Record.choice_eq_valid_iff (by decide) (fun style => ?_) fun style => ?_
  · cases style <;> rfl
  · cases style <;> rfl

/-- A value is read as a kind of source if it is the word for that. -/
theorem choice_sourceWords_eq_valid_iff {value : Json} {kind : SourceKind} :
    Record.choice sourceWords value = .valid kind ↔ value = .string kind.word := by
  refine Record.choice_eq_valid_iff (by decide) (fun kind => ?_) fun kind => ?_
  · cases kind <;> rfl
  · cases kind <;> rfl

/-- A value is read as what the field takes it as. -/
theorem Field.read_eq_valid_iff {field : Field} {value : Json} {content : field.Content} :
    field.read value = .valid content ↔ field.Takes value content := by
  cases field with
  | threshold => exact Record.natural_eq_valid_iff
  | receiver => exact Record.nonEmptyText_eq_valid_iff
  | parameterStyle => exact choice_styleWords_eq_valid_iff
  | source => exact choice_sourceWords_eq_valid_iff
  | pipelineModel | logLevel => exact Record.text_eq_valid_iff

/-- Members write settings exactly if only fields are named and each field, the standard one where
it is not named, reads as that of the settings. -/
theorem writes_iff {members : Members} {s : Settings} : Writes members s ↔
    (∀ member ∈ members, ∃ field : Field, field.name = member.1) ∧ ∀ field : Field,
      Record.optional members field.name (field.of standard) field.read = .valid (field.of s) := by
  constructor
  · intro h
    refine ⟨fun member hmember =>
      mem_fieldNames_iff.1 (onlyFields_eq_valid_iff.1 h.only member hmember), fun field => ?_⟩
    cases field with
    | threshold => exact h.threshold
    | receiver => exact h.receiver
    | parameterStyle => exact h.parameterStyle
    | source => exact h.source
    | pipelineModel => exact h.pipelineModel
    | logLevel => exact h.logLevel
  · rintro ⟨hnames, hfields⟩
    refine ⟨fun member hmember => ?_, hfields .threshold, hfields .receiver,
      hfields .parameterStyle, hfields .source, hfields .pipelineModel, hfields .logLevel,
      onlyFields_eq_valid_iff.2 fun member hmember => mem_fieldNames_iff.2 (hnames member hmember)⟩
    obtain ⟨field, hfield⟩ := hnames member hmember
    rw [← hfield]
    cases field <;> exact Text.isWhole_ofString _

end ProseGuard.Settings
