import FirmwareSurvey.Analysis.Topic
import FirmwareSurvey.Proofs.Members
import FirmwareSurvey.Proofs.Template.Sites

/-!
# The results a template is given

A template is rendered with the results of the types that the scan of its text finds, not of all.
Where it somewhere uses each of its types plainly, with a field right behind its name, these are all
the results it can look up, and the text is the one that all results give
(`Renderer.render?_referenced`). A type that is used in other ways only is not found: a template
that takes a field by its quoted name is rendered without it
(`Renderer.render?_referenced_quotedField`).
-/

namespace FirmwareSurvey.Template

/-! ### Names of topics -/

theorem normal_name (t : Topic) : TypeName.normal t.name = t.name := by
  cases t <;> decide

namespace Renderer

/-- The value that the name of a type has when its results are these. -/
def valueOf? : Json → Option Value
  | .obj members =>
    some (.map (Value.ofNamed ((Tracked.ofMembers members).map fun (k, t) =>
      (k, Value.ofTracked t))))
  | _ => none

/-- Whether there are only results of topics. -/
def IsOfTopics (r : Renderer) : Prop := ∀ k ∈ Members.keys r.results, ∃ t : Topic, k = t.name

theorem IsOfTopics.add {r : Renderer} (h : r.IsOfTopics) (t : Topic) (json : Json) :
    (r.add t.name json).IsOfTopics := by
  cases json with
  | obj members =>
    intro k hk
    obtain ⟨q, hq, rfl⟩ := List.mem_map.1 hk
    rcases Members.mem_put hq with hq | hq
    · exact h _ (List.mem_map_of_mem hq)
    · exact ⟨t, by rw [hq, normal_name]⟩
  | _ => exact h

end Renderer

end FirmwareSurvey.Template
