import SoqlForm.Catalog
import SoqlForm.Comparison
import SoqlForm.Control

/-!
# Conditions

A condition compares a field with a value.  It takes part in the query once both are given.  The
connective joins it to the condition before it; the first one's is not used.

`Condition.change` is one attribute set by the user: another field empties the value and chooses
the control anew.  `Condition.retype` chooses the control anew from a catalog.
-/

namespace SoqlForm

structure Condition where
  id : Nat
  field : String
  comparison : Comparison
  value : String
  connective : Connective
  /-- whether it stands first in its list -/
  isFirst : Bool
  control : Control
  deriving Repr, DecidableEq

namespace Condition

/-- a condition in which nothing is filled in -/
def blank (id : Nat) : Condition := ⟨id, "", .equal, "", .and, false, .text⟩

instance : Inhabited Condition := ⟨blank 0⟩

/-- a condition that is not part of a list -/
def make (field : String) (comparison : Comparison) (value : String) (connective : Connective) :
    Condition :=
  ⟨0, field, comparison, value, connective, false, .text⟩

/-- whether both field and value are given -/
def isComplete (c : Condition) : Bool := c.field != "" && c.value != ""

/-- one attribute set by the user -/
inductive Change where
  | field (name : String)
  | comparison (comparison : Comparison)
  | value (text : String)
  | connective (connective : Connective)
  deriving Repr, DecidableEq

/-- the condition after a change -/
def change (catalog : Catalog) (c : Condition) : Change → Condition
  | .field name => { c with field := name, value := "", control := .ofField? (catalog.find? name) }
  | .comparison op => { c with comparison := op }
  | .value text => { c with value := text }
  | .connective op => { c with connective := op }

/-- the condition with the control that the catalog gives to its field -/
def retype (catalog : Catalog) (c : Condition) : Condition :=
  if c.field = "" then c else { c with control := .ofField? (catalog.find? c.field) }

theorem retype_retype (a b : Catalog) (c : Condition) :
    (c.retype a).retype b = c.retype b := by
  by_cases h : c.field = "" <;> simp [retype, h]

end Condition

end SoqlForm
