import Isl.Model.Mention
import Isl.Error
/-!
# Libraries

A supply of documents by id. Its documents may import each other in circles, but all of them
together mention only finitely many ids, so a walk along imports that looks at each id once ends.
-/
namespace Isl

structure Library where
  document : String → Except SchemaError SchemaDocument
  finite : ∃ ids : List String, ∀ id d, document id = .ok d → ∀ i ∈ d.importIds, i ∈ ids

namespace Library

/-- What a walk can come upon: where it starts, and what some document mentions. -/
def Mentions (lib : Library) (start : List String) (id : String) : Prop :=
  id ∈ start ∨ ∃ i d, lib.document i = .ok d ∧ id ∈ d.importIds

theorem finite_mentions (lib : Library) (start : List String) :
    ∃ ids : List String, ∀ id, lib.Mentions start id → id ∈ ids := by
  obtain ⟨ids, h⟩ := lib.finite
  refine ⟨start ++ ids, fun id hid => ?_⟩
  rcases hid with hs | ⟨i, d, hd, hi⟩
  · exact List.mem_append_left _ hs
  · exact List.mem_append_right _ (h i d hd id hi)

end Library
end Isl
