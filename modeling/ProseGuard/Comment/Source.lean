import ProseGuard.Comment.Clause
import ProseGuard.Comment.Dependency
import ProseGuard.Run

/-!
# Proposition sources

Where the propositions of a comment come from. A source answers each text on its own: by cutting
sentences at their verbs, by the analyses of a pipeline, or from a list prepared beforehand. Which
pipelines there are, and what they find in a text, lies outside the library.
Main statement: `result_named`, by which a pipeline is asked for only by text that is not blank.

Specification 4.6, proposition sources: `parse` is `Source.read`.
-/

namespace ProseGuard.Comment

/-- Answers a text with what it says. -/
structure Source where
  read : Text → Run (List Proposition)

/-- A sentence with its analysis. -/
structure AnalysedSentence where
  text : Text
  tree : Tree

/-- A pipeline: the sentences that it finds in a text, or the fault that loading it for the text or
reading the text ends in. -/
abbrev Pipeline := Text → Except Fault (List AnalysedSentence)

/-- The pipelines at hand. -/
structure Pipelines where
  /-- The pipeline of a name, or the words that tell why it cannot be loaded. -/
  load : Text → Except Text Pipeline

/-- No pipeline is at hand, for want of the package that would load one. -/
def Pipelines.absent : Pipelines where
  load _ := .error "No module named 'spacy'"

namespace Source

/-- Cuts sentences at their verbs. -/
def pattern : Source where
  read text := pure (propositions text)

/-- The propositions of analysed sentences, those that are only stops and blanks left out. -/
def ofSentences (sentences : List AnalysedSentence) : List Proposition :=
  (sentences.filter fun s => Text.trimMarks " .;" s.text ≠ "").map (·.tree.proposition)

/-- Asks a pipeline for analysed sentences; blank text is not put to it. -/
def pipeline (analyse : Text → Run (List AnalysedSentence)) : Source where
  read text :=
    if Text.trimmed text = "" then pure []
    else ofSentences <$> analyse text

/-- A pipeline that answers, each text it was given being reported. -/
def dependency (analyse : Text → List AnalysedSentence) : Source :=
  pipeline fun text => do
    Run.report (.asked text)
    return analyse text

/-- The pipeline of a name, which is loaded for the first text that is put to it. -/
def named (pipelines : Pipelines) (model : Text) : Source :=
  pipeline fun text => do
    Run.report (.loadingPipeline model)
    match pipelines.load model with
    | .ok analyse => Run.ofResult ((analyse text).mapError .fault)
    | .error reason => Run.fail (.problem (.configuration (.noPipeline ⟨model, reason⟩)))

/-- A pipeline that cannot be loaded. -/
def unavailable (model : Text) : Source :=
  named .absent model

/-- Answers from a list, each text asked for being reported; a text that is not listed says
nothing. -/
def scripted (script : List (Text × List Proposition)) : Source where
  read text := do
    Run.report (.asked text)
    return (script.lookup text).getD []

/-- Blank text says nothing, any other asks for the pipeline. -/
theorem result_named (pipelines : Pipelines) (model text : Text) :
    ((named pipelines model).read text).result =
      if Text.trimmed text = "" then .ok []
      else match pipelines.load model with
        | .ok analyse => ((analyse text).mapError .fault).map ofSentences
        | .error reason => .error (.problem (.configuration (.noPipeline ⟨model, reason⟩))) := by
  simp only [named, pipeline]
  split
  · rfl
  · cases pipelines.load model <;> simp [Except.bind, Except.map]

end Source

end ProseGuard.Comment
