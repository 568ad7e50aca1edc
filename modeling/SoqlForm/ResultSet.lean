import SoqlForm.Catalog
import SoqlForm.Json.Basic
import SoqlForm.Text.Case

/-!
# Rows and columns of a result

A row binds the names of its columns to values, in the order in which the store gave them.  For
display a column has a kind: the catalog decides for fields of a kind other than text and picklist,
then a number makes a number column, then the name is searched for a hint.
-/

namespace SoqlForm

/-- a row of a result: its values by column name -/
abbrev Row := Keyed Json

/-- the value of a column, when it is a string -/
def Row.text? (r : Row) (name : String) : Option String := (r.find? name).bind Json.text?

/-- the rows that a query gave, and how many records match in all -/
structure ResultSet where
  rows : List Row
  total : Nat
  deriving Repr

namespace ResultSet

def empty : ResultSet := ⟨[], 0⟩

instance : Inhabited ResultSet := ⟨empty⟩

end ResultSet

namespace Column

/-- how a column is shown -/
inductive Kind where
  | text
  | number
  | boolean
  | date
  | dateLocal
  | email
  | phone
  | url
  deriving Repr, DecidableEq

namespace Kind

def token : Kind → String
  | text => "text"
  | number => "number"
  | boolean => "boolean"
  | date => "date"
  | dateLocal => "date-local"
  | email => "email"
  | phone => "phone"
  | url => "url"

/-- the kind that the catalog gives; it says nothing on text and picklist fields -/
def ofFieldKind? : Field.Kind → Option Kind
  | .dateTime => some date
  | .date => some dateLocal
  | .number => some number
  | .boolean => some boolean
  | .text | .picklist => none

/-- the words that tell a kind when they stand in a column name; the first one found counts -/
def hints : List (String × Kind) :=
  [("date", date), ("email", email), ("phone", phone), ("url", url), ("website", url)]

/-- the kind that the name of a column hints at, whatever its letter case -/
def ofName (name : String) : Kind :=
  match hints.find? fun h => Text.occurs h.1.toList (Text.hintCase name.toList) with
  | some h => h.2
  | none => text

def isNumber : Json → Bool
  | .number _ => true
  | _ => false

/-- the kind of a column from its field, a value and its name -/
def of (field? : Option Field) (value : Json) (name : String) : Kind :=
  match field?.bind (ofFieldKind? ·.kind) with
  | some k => k
  | none => if isNumber value then number else ofName name

end Kind

end Column

/-- a column as it is shown -/
structure Column where
  label : String
  field : String
  kind : Column.Kind
  deriving Repr, DecidableEq

/-- the columns of a row: one for each name, in order -/
def Row.columns (catalog : Catalog) (r : Row) : List Column :=
  r.entries.map fun e => ⟨e.1, e.1, Column.Kind.of (catalog.find? e.1) e.2 e.1⟩

/-- the columns of a result: those of its first row -/
def ResultSet.columns (catalog : Catalog) (rs : ResultSet) : List Column :=
  match rs.rows with
  | [] => []
  | r :: _ => r.columns catalog

end SoqlForm
