import SoqlForm.Text.Case

/-!
# Fields and entities

A field of an entity has a name, a label, a kind that decides how its values are written, the
values of its picklist and a flag that says whether it is indexed.  An entity is what the metadata
source tells about it: its fields, in order, and perhaps a description.
-/

namespace SoqlForm

namespace Field

/-- how the values of a field are typed -/
inductive Kind where
  | text
  | number
  | boolean
  | date
  | dateTime
  | picklist
  deriving Repr, DecidableEq, Inhabited

namespace Kind

def all : List Kind := [text, number, boolean, date, dateTime, picklist]

/-- the token of a kind in documents -/
def token : Kind → String
  | text => "text"
  | number => "number"
  | boolean => "boolean"
  | date => "date"
  | dateTime => "datetime"
  | picklist => "picklist"

def ofToken? (s : String) : Option Kind := all.find? (·.token == s)

def isDate : Kind → Bool
  | date | dateTime => true
  | _ => false

/-- the type names of an entity description that do not stand for text -/
def describedNames : List (String × Kind) :=
  [("DATE", date), ("DATETIME", dateTime),
    ("DOUBLE", number), ("INTEGER", number), ("LONG", number), ("CURRENCY", number),
    ("PERCENT", number), ("NUMBER", number),
    ("BOOLEAN", boolean), ("PICKLIST", picklist), ("MULTIPICKLIST", picklist)]

/-- the kind for a type name of an entity description, in any case; a name that is not known
stands for text -/
def ofDescribed (name : String) : Kind :=
  (describedNames.lookup (String.ofList (Text.upper name.toList))).getD text

theorem ofToken?_token (k : Kind) : ofToken? k.token = some k := by cases k <;> decide

end Kind

end Field

/-- a field of an entity -/
structure Field where
  name : String
  label : String
  kind : Field.Kind
  choices : List String
  isIndexed : Bool
  deriving Repr, DecidableEq, Inhabited

/-- a field that is labelled by its name, without choices and not indexed -/
def Field.plain (name : String) (kind : Field.Kind) : Field := ⟨name, name, kind, [], false⟩

/-- what the metadata source tells about an entity -/
structure Entity where
  description : Option String
  fields : List Field
  deriving Repr, DecidableEq, Inhabited

end SoqlForm
