import SoqlForm.Query.Basic
import SoqlForm.Style

/-!
# The text of a query

A query is written as its clauses, in order, with a space between them.  A clause without content is
left out.  While no entity is chosen the text is a fixed query.
-/

namespace SoqlForm

/-- the text of a condition: field, operator and literal -/
def Condition.text (style : Style) (catalog : Catalog) (c : Condition) : String :=
  c.field ++ " " ++ c.comparison.token ++ " " ++
    style.literal (catalog.find? c.field) c.comparison c.value

/-- a condition behind another one -/
def Condition.joined (style : Style) (catalog : Catalog) (c : Condition) : String :=
  " " ++ c.connective.token ++ " " ++ c.text style catalog

namespace Query

/-- the query shown while no entity is chosen -/
def placeholder : String := "SELECT Id FROM Account LIMIT 10"

/-- conditions one after the other; the first goes without its connective -/
def predicate (style : Style) (catalog : Catalog) : List Condition → String
  | [] => ""
  | c :: cs => c.text style catalog ++ String.join (cs.map (·.joined style catalog))

/-- the selected fields; none selected stands for the id -/
def selection : List String → String
  | [] => "Id"
  | fields => ", ".intercalate fields

variable (style : Style) (catalog : Catalog) (q : Query)

def whereClause : List String :=
  match q.completeConditions with
  | [] => []
  | cs => ["WHERE " ++ predicate style catalog cs]

def orderClause : List String :=
  match q.sortField? with
  | some field => ["ORDER BY " ++ field ++ " " ++ q.direction.token]
  | none => []

def limitClause : List String :=
  match q.rowLimit? with
  | some n => ["LIMIT " ++ n.repr]
  | none => []

def offsetClause : List String := if q.offset = 0 then [] else ["OFFSET " ++ q.offset.repr]

/-- the clauses of a query on an entity -/
def clauses (entity : String) : List String :=
  ["SELECT " ++ selection q.fields, "FROM " ++ entity] ++ q.whereClause style catalog ++
    q.orderClause ++ q.limitClause ++ q.offsetClause

/-- the text of a query -/
def render : String :=
  match q.target? with
  | some entity => " ".intercalate (q.clauses style catalog entity)
  | none => placeholder

end Query

end SoqlForm
