import SoqlForm.Query.Summary
import SoqlForm.Settings
import SoqlForm.Verdict

/-!
# The review of a query

A query is reviewed by four rules, each on its own.  A rule that applies gives its tip, and worsens
the grade in its own way:

* `unindexed`   there are conditions, and none with a value is on an indexed field: one step worse;
* `wide`        many fields are selected: the grade stays;
* `unbounded`   there is no row limit or a high one: a good grade becomes fair;
* `negative`    a condition excludes values: the grade becomes poor.
-/

namespace SoqlForm

namespace Query

/-- the rules of the review -/
inductive Rule where
  | unindexed
  | wide
  | unbounded
  | negative
  deriving Repr, DecidableEq

variable (settings : Settings) (catalog : Catalog) (q : Query)

/-- whether a field counts as indexed: the catalog decides on the fields it knows -/
def countsAsIndexed (name : String) : Bool :=
  match catalog.find? name with
  | some f => f.isIndexed
  | none => settings.isIndexedName name

/-- whether some condition with a value is on an indexed field -/
def filtersOnIndexed : Bool :=
  q.conditions.any fun c => c.value != "" && countsAsIndexed settings catalog c.field

/-- whether the row limit is missing or above the threshold -/
def isUnbounded : Bool :=
  match q.rowLimit? with
  | some n => settings.limitThreshold.toNat < n
  | none => true

namespace Rule

/-- the rules in the order of their tips -/
def all : List Rule := [unindexed, wide, unbounded, negative]

def applies : Rule → Bool
  | unindexed => !q.conditions.isEmpty && !q.filtersOnIndexed settings catalog
  | wide => settings.widthThreshold.toNat < q.fields.length
  | unbounded => q.isUnbounded settings
  | negative => q.conditions.any (·.comparison.isNegative)

def tip : Rule → String
  | unindexed => "Use indexed fields in WHERE clause for better performance"
  | wide => "Consider selecting only the fields you need"
  | unbounded => "Use LIMIT to prevent hitting governor limits"
  | negative => "Negative operators can impact performance"

/-- what a rule that applies makes of a grade -/
def worsen : Rule → Grade → Grade
  | unindexed, g => g.downgrade
  | wide, g => g
  | unbounded, .good => .fair
  | unbounded, g => g
  | negative, _ => .poor

end Rule

/-- the rules that apply, in order -/
def findings : List Rule := Rule.all.filter (Rule.applies settings catalog q)

/-- the grade: good, worsened by every finding -/
def grade : Grade := (q.findings settings catalog).foldl (fun g r => r.worsen g) .good

/-- the verdict of the rules -/
def review : Verdict where
  score := (q.grade settings catalog).score
  grade := q.grade settings catalog
  tips := (q.findings settings catalog).map (·.tip)
  explanation := q.summary
  estimatedRows := none

end Query

end SoqlForm
