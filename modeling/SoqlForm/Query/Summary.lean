import SoqlForm.Query.Basic

/-!
# A query in plain words

One sentence that says what a query retrieves; nothing while no entity is chosen.  A filter is
mentioned as soon as there is a condition, be it complete or not.
-/

namespace SoqlForm.Query

/-- the selected fields in words: their number, or the name of the only one -/
def fieldsInWords : List String → String
  | [] => "the Id field"
  | [field] => "the " ++ field ++ " field"
  | fields => fields.length.repr ++ " fields"

variable (q : Query)

def filterInWords : String := if q.conditions = [] then "" else ", with filtering conditions"

def sortingInWords : String :=
  match q.sortField? with
  | some field => " sorted by " ++ field
  | none => ""

def limitInWords : String :=
  match q.rowLimit? with
  | some n => " limited to " ++ n.repr ++ " records"
  | none => ""

/-- what the query retrieves -/
def summary : String :=
  match q.target? with
  | some entity =>
    "This query retrieves " ++ fieldsInWords q.fields ++ " from " ++ entity ++ " records" ++
      q.filterInWords ++ q.sortingInWords ++ q.limitInWords ++ "."
  | none => ""

end SoqlForm.Query
