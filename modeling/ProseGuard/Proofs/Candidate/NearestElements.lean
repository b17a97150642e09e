import Mathlib.Order.Bounds.Defs
import ProseGuard.Candidate.Element
import ProseGuard.Proofs.Candidate.Nearest

/-!
# Elements nearest to a text

An element lies as far from a text as the nearest of its words does, case aside
(`Element.distance_isLeast`). Main statement: `nearest_elements`, by which the elements nearest to a
text are all those at the smallest distance, in their order, unless that exceeds the threshold.
-/

namespace ProseGuard.Candidate

variable {elements : List Element}

/-- An element with a word lies as far from a text as its nearest word does. -/
theorem Element.distance_isLeast {e : Element} (hwords : e.identifiers ≠ []) (text : Text) :
    IsLeast {d | ∃ word ∈ e.identifiers, Text.distance (Text.lower word) (Text.lower text) = d}
      (e.distance text) := by
  let distances := e.identifiers.map fun word => Text.distance (Text.lower word) (Text.lower text)
  have hne : distances ≠ [] := fun h => hwords (List.map_eq_nil_iff.1 h)
  obtain ⟨d, hd⟩ := Option.ne_none_iff_exists'.1 fun h => hne (List.min?_eq_none_iff.1 h)
  have hdistance : e.distance text = d := by
    show distances.min?.getD farthest = d
    rw [hd, Option.getD_some]
  obtain ⟨hmem, hleast⟩ := List.min?_eq_some_iff.1 hd
  rw [hdistance]
  refine ⟨List.mem_map.1 hmem, ?_⟩
  rintro _ ⟨word, hword, rfl⟩
  exact hleast _ (List.mem_map_of_mem hword)

/-- The elements nearest to a text are all those at the smallest distance of all, in their order,
if the threshold reaches that far, and none otherwise; the distance of each is that of its nearest
word. -/
theorem nearest_elements (text : Text) (threshold : Int)
    (hwords : ∀ e ∈ elements, e.identifiers ≠ []) :
    (∀ e ∈ elements,
      IsLeast {d | ∃ word ∈ e.identifiers, Text.distance (Text.lower word) (Text.lower text) = d}
        (e.distance text)) ∧
    nearest (Element.distance text) threshold elements =
      match (elements.map (Element.distance text)).min? with
      | some smallest =>
        if smallest ≤ threshold then elements.filter fun e => e.distance text = smallest else []
      | none => [] :=
  ⟨fun e he => e.distance_isLeast (hwords e he) text,
    nearest_eq_filter_min (Element.distance text) threshold elements⟩

/-- Questions whose names differ in one or two letters from another name, one of them twice. -/
def namedQuestions : List Element :=
  [derivedElement "a" "isFine", derivedElement "b" "isDone", derivedElement "c" "isGone",
    derivedElement "b" "isDone"]

/-- Of these the ones at distance one are kept, the repeated one twice. -/
theorem nearest_namedQuestions :
    (∀ e ∈ namedQuestions, e.identifiers ≠ []) ∧
      nearest (Element.distance "isTone") 2 namedQuestions =
        [derivedElement "b" "isDone", derivedElement "c" "isGone", derivedElement "b" "isDone"] ∧
      nearest (Element.distance "isTone") (-1) namedQuestions = [] := by
  have hwords : ∀ e ∈ namedQuestions, e.identifiers ≠ [] := by decide
  refine ⟨hwords, ?_, ?_⟩
  · rw [(nearest_elements "isTone" 2 hwords).2]
    decide
  · rw [(nearest_elements "isTone" (-1) hwords).2]
    decide

end ProseGuard.Candidate
