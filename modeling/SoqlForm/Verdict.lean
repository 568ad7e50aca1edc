import SoqlForm.Failure
import SoqlForm.Text.Blank
import SoqlForm.Text.Case

/-!
# Verdicts

A verdict on a query is a score from 0 to 100, a grade, tips, an explanation and perhaps an
estimate of the number of rows.

* `Grade`      good, fair or poor, best first;
* `Severity`   how a grade is shown;
* `Band`       the band in which a score falls;
* `Verdict.neutral`   the verdict while no analysis is to be had.
-/

namespace SoqlForm

/-- how a grade is shown -/
inductive Severity where
  | success
  | warning
  | error
  deriving Repr, DecidableEq

def Severity.token : Severity → String
  | success => "success"
  | warning => "warning"
  | error => "error"

/-! ### grades -/

inductive Grade where
  | good
  | fair
  | poor
  deriving Repr, DecidableEq, Inhabited

namespace Grade

def all : List Grade := [good, fair, poor]

def token : Grade → String
  | good => "Good"
  | fair => "Fair"
  | poor => "Poor"

def ofToken? (s : String) : Option Grade := all.find? (·.token == s)

/-- the place in the order from best to worst -/
def rank : Grade → Nat
  | good => 0
  | fair => 1
  | poor => 2

/-- one step worse; nothing is worse than poor -/
def downgrade : Grade → Grade
  | good => fair
  | fair | poor => poor

def severity : Grade → Severity
  | good => .success
  | fair => .warning
  | poor => .error

/-- the score that goes with a grade given by the rules -/
def score : Grade → Nat
  | good => 85
  | fair => 70
  | poor => 45

/-- the grade that goes with a score given from outside -/
def ofScore (score : Nat) : Grade :=
  if 75 ≤ score then good else if 60 ≤ score then fair else poor

/-- the words that name a grade, in lower case -/
def names : List (String × Grade) :=
  [("good", good), ("excellent", good), ("fair", fair), ("poor", poor)]

/-- reads a grade whatever its letter case and the blanks around it -/
def parse (s : String) : Except Failure Grade :=
  match names.lookup (String.ofList (Text.lower (Text.trim s.toList))) with
  | some g => .ok g
  | none => .error (.advisoryUnavailable ("unknown grade " ++ s))

end Grade

/-! ### bands -/

inductive Band where
  | excellent
  | good
  | fair
  | poor
  deriving Repr, DecidableEq

namespace Band

def token : Band → String
  | excellent => "Excellent"
  | good => "Good"
  | fair => "Fair"
  | poor => "Poor"

def ofScore (score : Nat) : Band :=
  if 90 ≤ score then excellent
  else if 75 ≤ score then good
  else if 60 ≤ score then fair
  else poor

end Band

/-! ### verdicts -/

structure Verdict where
  score : Nat
  grade : Grade
  tips : List String
  explanation : String
  estimatedRows : Option String
  deriving Repr, DecidableEq

namespace Verdict

def severity (v : Verdict) : Severity := v.grade.severity

def band (v : Verdict) : Band := Band.ofScore v.score

/-- the score of the neutral verdict -/
def neutralScore : Nat := 75

/-- the only tip of the neutral verdict -/
def unavailableTip : String := "Query analysis temporarily unavailable"

/-- the verdict while no analysis is to be had -/
def neutral (explanation : String) : Verdict :=
  ⟨neutralScore, .good, [unavailableTip], explanation, none⟩

end Verdict

end SoqlForm
