import SoqlForm.Filter
import SoqlForm.Query.Review
import SoqlForm.Query.Text
import SoqlForm.ResultSet
import SoqlForm.Rotation

/-!
# The form

A form holds all that the user sees and edits: the entity and its catalog, the choices that make up
the query, the text of the query with its verdict, the last results and the tips.

* `Form.query`     what the choices amount to;
* `Form.refresh`   writes the text and the verdict anew, and counts as an edit;
* `Form.fresh`     the form at the start, refreshed once.

The text and the verdict are kept in the form, since a verdict may come from outside; every change
of the choices or of the catalog goes through `refresh`.
-/

namespace SoqlForm

structure Form where
  entity : Option String
  fields : List String
  filter : Filter
  orderBy : Option String
  direction : Direction
  limit : Option Nat
  offset : Nat
  catalog : Catalog
  /-- what the metadata source says about the entity -/
  description : Option String
  /-- whether the fields of the entity are still awaited -/
  isPending : Bool
  /-- how many times an entity has been selected, or the selection ended -/
  selections : Nat
  /-- how many times the text has been written -/
  edits : Nat
  /-- how many analyses have been asked for -/
  analyses : Nat
  text : String
  verdict : Verdict
  results : ResultSet
  /-- the columns of the results as they are shown -/
  columns : List Column
  tips : Rotation
  isExecuting : Bool
  deriving Repr

namespace Form

variable (settings : Settings) (f : Form)

def query : Query :=
  ⟨f.entity, f.fields, f.filter.conditions, f.orderBy, f.direction, f.limit, f.offset⟩

/-- the form with its text and verdict written anew -/
def refresh : Form :=
  { f with
    text := f.query.render settings.style f.catalog
    verdict := f.query.review settings f.catalog
    edits := f.edits + 1 }

/-- a form in which nothing is chosen but the row limit -/
def blank : Form where
  entity := none
  fields := []
  filter := .empty
  orderBy := none
  direction := .ascending
  limit := settings.defaultLimit.map fun n => min n.toNat Query.maxLimit
  offset := 0
  catalog := .empty
  description := none
  isPending := false
  selections := 0
  edits := 0
  analyses := 0
  text := Query.placeholder
  verdict := .neutral ""
  results := .empty
  columns := []
  tips := .start settings.tips
  isExecuting := false

def fresh : Form := (blank settings).refresh settings

theorem catalog_refresh : (f.refresh settings).catalog = f.catalog := rfl
theorem edits_refresh : (f.refresh settings).edits = f.edits + 1 := rfl

end Form

end SoqlForm
