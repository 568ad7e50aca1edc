import SoqlForm.Verdict

/-!
# Appraisals from outside

What a scoring service answers about a query, and the verdict made of it: the score is brought
into the range from 0 to 100, a grade that cannot be read is taken from the score, and an empty
estimate counts as none.
-/

namespace SoqlForm

structure Appraisal where
  score : Int64
  grade : String
  tips : List String
  explanation : String
  estimatedRows : String
  deriving Repr, DecidableEq

namespace Appraisal

/-- the score, brought into the range from 0 to 100 -/
def boundedScore (a : Appraisal) : Nat := (min a.score.toInt 100).toNat

/-- the grade named, and the grade of the score where none is -/
def readGrade (a : Appraisal) : Grade :=
  match Grade.parse a.grade with
  | .ok g => g
  | .error _ => Grade.ofScore a.boundedScore

def verdict (a : Appraisal) : Verdict where
  score := a.boundedScore
  grade := a.readGrade
  tips := a.tips
  explanation := a.explanation
  estimatedRows := if a.estimatedRows = "" then none else some a.estimatedRows

end Appraisal

end SoqlForm
