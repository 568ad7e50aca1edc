import SoqlForm.Field

/-!
# Input controls

The control in which the value of a condition is entered follows from the kind of its field; for a
field that is not known it is free text.
-/

namespace SoqlForm

inductive Control where
  | text
  | number
  | boolean
  | date (withTime : Bool)
  | picklist (options : List String)
  deriving Repr, DecidableEq, Inhabited

namespace Control

/-- the control for a field -/
def ofField (f : Field) : Control :=
  match f.kind with
  | .text => text
  | .number => number
  | .boolean => boolean
  | .date => date false
  | .dateTime => date true
  | .picklist => picklist f.choices

/-- the control for a field that may be unknown -/
def ofField? : Option Field → Control
  | some f => ofField f
  | none => text

/-- the name of the input type -/
def inputType : Control → String
  | text => "text"
  | number => "number"
  | boolean => "boolean"
  | date false => "date"
  | date true => "datetime-local"
  | picklist _ => "picklist"

/-- the choices that the control offers -/
def options : Control → List String
  | boolean => ["true", "false"]
  | picklist options => options
  | _ => []

end Control

end SoqlForm
