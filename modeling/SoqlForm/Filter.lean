import SoqlForm.Condition

/-!
# The filter: an ordered list of conditions

A filter is edited in place.  Every condition gets an id of its own, one more than the last, and
ids are never given twice.  The revision goes up with every change, so that an observer has to look
at the revision alone.

* `append`, `remove`, `update`, `clear`   the edits;
* `retype`       chooses the controls anew after the catalog has changed;
* `markFirst`    sets the flag of the first condition, and of no other.
-/

namespace SoqlForm

/-- sets the flag of the first condition and clears that of the others -/
def markFirst : List Condition → List Condition
  | [] => []
  | c :: cs => { c with isFirst := true } :: cs.map ({ · with isFirst := false })

structure Filter where
  conditions : List Condition
  /-- the id given last; 0 before the first -/
  lastId : Nat
  revision : Nat
  deriving Repr, DecidableEq

namespace Filter

def empty : Filter := ⟨[], 0, 0⟩

instance : Inhabited Filter := ⟨empty⟩

variable (f : Filter)

def size : Nat := f.conditions.length

/-- the filter with other conditions, its first one marked, at the next revision -/
def revise (conditions : List Condition) : Filter :=
  { f with conditions := markFirst conditions, revision := f.revision + 1 }

/-- the id that the next condition gets -/
def nextId : Nat := f.lastId + 1

/-- adds a blank condition at the end -/
def append : Filter :=
  { f with lastId := f.nextId }.revise (f.conditions ++ [Condition.blank f.nextId])

/-- takes out the condition at a position -/
def remove (position : Nat) : Except Failure (Condition × Filter) :=
  match f.conditions[position]? with
  | some c => .ok (c, f.revise (f.conditions.eraseIdx position))
  | none => .error (.noCondition position)

/-- changes one attribute of the condition at a position -/
def update (catalog : Catalog) (position : Nat) (change : Condition.Change) :
    Except Failure Filter :=
  match f.conditions[position]? with
  | some c => .ok (f.revise (f.conditions.set position (c.change catalog change)))
  | none => .error (.noCondition position)

/-- chooses every control anew; a filter whose controls stay is left as it is -/
def retype (catalog : Catalog) : Filter :=
  let conditions := f.conditions.map (Condition.retype catalog)
  if conditions = f.conditions then f else f.revise conditions

/-- takes out all conditions; an empty filter is left as it is -/
def clear : Filter := if f.conditions = [] then f else f.revise []

/-- the position of the condition with an id -/
def positionOf? (id : Nat) : Option Nat := f.conditions.findIdx? (·.id == id)

theorem conditions_revise (cs : List Condition) : (f.revise cs).conditions = markFirst cs := rfl
theorem revision_revise (cs : List Condition) : (f.revise cs).revision = f.revision + 1 := rfl
theorem lastId_revise (cs : List Condition) : (f.revise cs).lastId = f.lastId := rfl

end Filter

end SoqlForm
