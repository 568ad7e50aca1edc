import SoqlForm.Session.Form

/-!
# Edits

The edits that need nobody's answer.  `Edit.apply` says what an edit does to the choices of a form,
and `Form.edit` refreshes the form behind it; an edit that fails leaves the form as it was.
-/

namespace SoqlForm

inductive Edit where
  | toggleField (name : String) (checked : Bool)
  /-- selects the fields of the catalog, in its order -/
  | selectAllFields
  | clearFields
  | addCondition
  | removeCondition (position : Nat)
  | updateCondition (position : Nat) (change : Condition.Change)
  /-- sets the sort field; none or an empty name ends the sorting -/
  | sortBy (field : Option String)
  | setDirection (direction : Direction)
  /-- sets the row limit; none or zero takes it away -/
  | setLimit (limit : Option Nat)
  | setOffset (offset : Nat)
  deriving Repr, DecidableEq

/-- a row limit that was lowered to the greatest one -/
structure LimitWarning where
  requested : Nat
  deriving Repr, DecidableEq

namespace LimitWarning

def applied (_ : LimitWarning) : Nat := Query.maxLimit

def message (w : LimitWarning) : String :=
  "LIMIT cannot exceed " ++ w.applied.repr ++ " records"

end LimitWarning

namespace Edit

inductive Answer where
  | done
  /-- a condition was added, with this id -/
  | added (id : Nat)
  | removed (condition : Condition)
  /-- the row limit was set, and perhaps lowered -/
  | limited (warning : Option LimitWarning)
  deriving Repr, DecidableEq

/-- the selection after a field is checked or unchecked: a new field goes to the end -/
def toggle (name : String) (checked : Bool) (fields : List String) : List String :=
  if checked then if fields.contains name then fields else fields ++ [name]
  else fields.filter (· != name)

/-- the warning for a requested row limit -/
def limitWarning? (requested : Nat) : Option LimitWarning :=
  if Query.maxLimit < requested then some ⟨requested⟩ else none

/-- what an edit does to the choices of a form -/
def apply (f : Form) : Edit → Except Failure (Answer × Form)
  | toggleField name checked => .ok (.done, { f with fields := toggle name checked f.fields })
  | selectAllFields => .ok (.done, { f with fields := f.catalog.names })
  | clearFields => .ok (.done, { f with fields := [] })
  | addCondition => .ok (.added f.filter.nextId, { f with filter := f.filter.append })
  | removeCondition position =>
    (f.filter.remove position).map fun (c, filter) => (.removed c, { f with filter := filter })
  | updateCondition position change =>
    (f.filter.update f.catalog position change).map fun filter =>
      (.done, { f with filter := filter })
  | sortBy field => .ok (.done, { f with orderBy := field.filter (· != "") })
  | setDirection direction => .ok (.done, { f with direction := direction })
  | setLimit limit =>
    .ok (.limited (limit.bind limitWarning?),
      { f with limit := (limit.map (min · Query.maxLimit)).filter (0 < ·) })
  | setOffset offset => .ok (.done, { f with offset := offset })

end Edit

/-- makes an edit and refreshes the form; an edit that fails leaves it as it was -/
def Form.edit (settings : Settings) (f : Form) (e : Edit) : Except Failure Edit.Answer × Form :=
  match e.apply f with
  | .ok (answer, f') => (.ok answer, f'.refresh settings)
  | .error failure => (.error failure, f)

def Form.nextTip (f : Form) : Option String × Form :=
  let tips := f.tips.advance
  (tips.current?, { f with tips := tips })

end SoqlForm
