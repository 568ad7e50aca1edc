import SoqlForm.Document.Token
import SoqlForm.Field
import SoqlForm.Json.Record

/-!
# Documents of fields and entities

The record of a field needs a name, a label and a kind; choices and the index flag may be left out.
The record of an entity needs its fields; the description may be left out or null.
-/

namespace SoqlForm

namespace Field

/-- the entries of a field, in order -/
def entryNames : List String := ["name", "label", "field_type", "picklist_values", "is_indexed"]

def toJson (f : Field) : Json :=
  .record [("name", .string f.name), ("label", .string f.label), ("field_type", f.kind.toJson),
    ("picklist_values", .strings f.choices), ("is_indexed", .bool f.isIndexed)]

def ofJson? (v : Json) : Option Field := do
  let es ← Json.Entries.read? entryNames v
  let name ← es.required? "name" Json.text?
  let label ← es.required? "label" Json.text?
  let kind ← es.required? "field_type" Field.Kind.ofJson?
  let choices ← es.default? "picklist_values" (Json.list? Json.text?) []
  let isIndexed ← es.default? "is_indexed" Json.bool? false
  return { name, label, kind, choices, isIndexed }

end Field

namespace Entity

/-- the entries of an entity, in order -/
def entryNames : List String := ["description", "fields"]

def toJson (e : Entity) : Json :=
  .record [("description", .ofOption .string e.description),
    ("fields", .array (e.fields.map Field.toJson))]

def ofJson? (v : Json) : Option Entity := do
  let es ← Json.Entries.read? entryNames v
  let description ← es.default? "description" (Json.optional? Json.text?) none
  let fields ← es.required? "fields" (Json.list? Field.ofJson?)
  return { description, fields }

end Entity

end SoqlForm
