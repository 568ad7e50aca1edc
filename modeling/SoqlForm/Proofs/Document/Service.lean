import SoqlForm.Document.Appraisal
import SoqlForm.Document.Entity
import SoqlForm.Proofs.Json.Record
import SoqlForm.Proofs.Json.Text

/-!
# What the services say is read as it is written

The fields of an entity come from one service, the appraisal of a query from another.  Both are
written as records, entry by entry, and reading decodes the entries one after the other.

* `Field.ofJson?_toJson`, `Entity.ofJson?_toJson`, `Appraisal.ofJson?_toJson`   the value of what is
                        encoded;
* `written_is_read`     the same for the compact text, so that no two values have one text.
-/

namespace SoqlForm

open Json.Entries

namespace Field

def members (f : Field) : List (String × Json) :=
  [("name", .string f.name), ("label", .string f.label), ("field_type", f.kind.toJson),
    ("picklist_values", .strings f.choices), ("is_indexed", .bool f.isIndexed)]

theorem ofJson?_toJson (f : Field) : ofJson? f.toJson = some f := by
  have hread : read? entryNames f.toJson = some f.members := read?_record_self (by decide) rfl
  have hname : required? f.members "name" Json.text? = some f.name := rfl
  have hlabel : required? f.members "label" Json.text? = some f.label := rfl
  have hkind : required? f.members "field_type" Kind.ofJson? = some f.kind := f.kind.ofJson?_toJson
  have hchoices : default? f.members "picklist_values" (Json.list? Json.text?) []
      = some f.choices := Json.list?_strings f.choices
  have hindexed : default? f.members "is_indexed" Json.bool? false = some f.isIndexed := rfl
  simp only [ofJson?, hread, hname, hlabel, hkind, hchoices, hindexed, Option.bind_eq_bind,
    Option.bind_some]
  rfl

end Field

namespace Entity

def members (e : Entity) : List (String × Json) :=
  [("description", .ofOption .string e.description),
    ("fields", .array (e.fields.map Field.toJson))]

theorem ofJson?_toJson (e : Entity) : ofJson? e.toJson = some e := by
  have hread : read? entryNames e.toJson = some e.members := read?_record_self (by decide) rfl
  have hdescription : default? e.members "description" (Json.optional? Json.text?) none
      = some e.description := Json.optional?_ofOption Json.text?_string nofun e.description
  have hfields : required? e.members "fields" (Json.list? Field.ofJson?) = some e.fields :=
    Json.list?_map Field.ofJson?_toJson e.fields
  simp only [ofJson?, hread, hdescription, hfields, Option.bind_eq_bind, Option.bind_some]
  rfl

end Entity

namespace Appraisal

def members (a : Appraisal) : List (String × Json) :=
  [("score", .ofInt a.score.toInt), ("grade", .string a.grade), ("tips", .strings a.tips),
    ("explanation", .string a.explanation), ("estimatedRows", .string a.estimatedRows)]

theorem score?_ofInt (n : Int64) : score? (.ofInt n.toInt) = some n := by
  rw [score?, Json.integer?_ofInt]
  show (if Int64.minValue.toInt ≤ n.toInt ∧ n.toInt ≤ Int64.maxValue.toInt
    then some (Int64.ofInt n.toInt) else none) = some n
  rw [if_pos ⟨n.minValue_le_toInt, n.toInt_le⟩, Int64.ofInt_toInt]

theorem ofJson?_toJson (a : Appraisal) : ofJson? a.toJson = some a := by
  have hread : read? entryNames a.toJson = some a.members := read?_record_self (by decide) rfl
  have hscore : required? a.members "score" score? = some a.score := score?_ofInt a.score
  have hgrade : default? a.members "grade" Json.text? "" = some a.grade := rfl
  have htips : default? a.members "tips" (Json.list? Json.text?) [] = some a.tips :=
    Json.list?_strings a.tips
  have hexplanation : default? a.members "explanation" Json.text? "" = some a.explanation := rfl
  have hrows : default? a.members "estimatedRows" Json.text? "" = some a.estimatedRows := rfl
  simp only [ofJson?, hread, hscore, hgrade, htips, hexplanation, hrows, Option.bind_eq_bind,
    Option.bind_some]
  rfl

end Appraisal

/-- **What a service says is read as it is written**, whatever its texts, numbers and lists are, so
no two entities have one text, and no two appraisals. -/
theorem written_is_read :
    (∀ e : Entity, (Json.read? e.toJson.text).bind Entity.ofJson? = some e) ∧
      (∀ a : Appraisal, (Json.read? a.toJson.text).bind Appraisal.ofJson? = some a) ∧
      (∀ d e : Entity, d.toJson.text = e.toJson.text → d = e) ∧
      ∀ a b : Appraisal, a.toJson.text = b.toJson.text → a = b := by
  have hentity : ∀ e : Entity, (Json.read? e.toJson.text).bind Entity.ofJson? = some e := by
    intro e
    rw [Json.read?_text, Option.bind_some, e.ofJson?_toJson]
  have happraisal :
      ∀ a : Appraisal, (Json.read? a.toJson.text).bind Appraisal.ofJson? = some a := by
    intro a
    rw [Json.read?_text, Option.bind_some, a.ofJson?_toJson]
  refine ⟨hentity, happraisal, fun d e h => ?_, fun a b h => ?_⟩
  · exact Option.some.inj (by rw [← hentity d, h, hentity e])
  · exact Option.some.inj (by rw [← happraisal a, h, happraisal b])

end SoqlForm
