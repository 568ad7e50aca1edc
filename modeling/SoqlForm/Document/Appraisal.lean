import SoqlForm.Appraisal
import SoqlForm.Json.Record
import SoqlForm.Json.Text

/-!
# Documents of appraisals

The record of an appraisal needs its score; a text left out is empty, and so is the list of tips.
-/

namespace SoqlForm.Appraisal

/-- the entries of an appraisal, in order -/
def entryNames : List String := ["score", "grade", "tips", "explanation", "estimatedRows"]

def toJson (a : Appraisal) : Json :=
  .record [("score", .ofInt a.score.toInt), ("grade", .string a.grade), ("tips", .strings a.tips),
    ("explanation", .string a.explanation), ("estimatedRows", .string a.estimatedRows)]

/-- a signed integer of 64 bits -/
def score? (v : Json) : Option Int64 := do
  let i ← v.integer?
  if Int64.minValue.toInt ≤ i ∧ i ≤ Int64.maxValue.toInt then some (Int64.ofInt i) else none

def ofJson? (v : Json) : Option Appraisal := do
  let es ← Json.Entries.read? entryNames v
  let score ← es.required? "score" score?
  let grade ← es.default? "grade" Json.text? ""
  let tips ← es.default? "tips" (Json.list? Json.text?) []
  let explanation ← es.default? "explanation" Json.text? ""
  let estimatedRows ← es.default? "estimatedRows" Json.text? ""
  return { score, grade, tips, explanation, estimatedRows }

end SoqlForm.Appraisal
