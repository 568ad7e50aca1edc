import SoqlForm.Condition

/-!
# Queries

What determines the text of a query: the entity, the selected fields, the conditions, the sorting
and the paging.  An empty entity or sort field counts as none, a row limit of zero as no limit, and
a limit above `maxLimit` as `maxLimit`.
-/

namespace SoqlForm

structure Query where
  entity : Option String
  fields : List String
  conditions : List Condition
  orderBy : Option String
  direction : Direction
  limit : Option Nat
  offset : Nat
  deriving Repr, DecidableEq

namespace Query

/-- the query in which nothing is chosen -/
def empty : Query := ⟨none, [], [], none, .ascending, none, 0⟩

instance : Inhabited Query := ⟨empty⟩

/-- the greatest row limit -/
def maxLimit : Nat := 50000

/-! ### building a query step by step -/

/-- all records of an entity -/
def ofEntity (entity : String) : Query := { empty with entity := some entity }

variable (q : Query)

def select (fields : List String) : Query := { q with fields := fields }

def filterBy (c : Condition) : Query := { q with conditions := q.conditions ++ [c] }

def sortBy (field : String) (direction : Direction) : Query :=
  { q with orderBy := some field, direction := direction }

/-- sets the row limit, lowered to `maxLimit` -/
def limitTo (n : Nat) : Query := { q with limit := some (min n maxLimit) }

def skip (n : Nat) : Query := { q with offset := n }

/-! ### what reaches the text -/

/-- the entity, when one is chosen -/
def target? : Option String := q.entity.filter (· != "")

/-- the sort field, when one is chosen -/
def sortField? : Option String := q.orderBy.filter (· != "")

/-- the row limit as it is emitted: at most `maxLimit`, and none for zero -/
def rowLimit? : Option Nat := (q.limit.map (min · maxLimit)).filter (0 < ·)

/-- the conditions that take part in the query -/
def completeConditions : List Condition := q.conditions.filter (·.isComplete)

end Query

end SoqlForm
