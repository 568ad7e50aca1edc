import SoqlForm.Query.Review
import SoqlForm.Query.Text
import Mathlib.Logic.Basic

/-!
# What a query reads of its conditions

Of a condition the text, the review and the summary read the field, the operator, the value and the
connective.  Its id, its mark and its control may be anything.

* `Condition.core`, `Query.core`   nothing but what is read;
* `render_core`, `review_core`, `summary_core`   the core has the text, the review and the summary
                     of the whole.
-/

namespace SoqlForm

/-- the condition with the id, the mark and the control of a blank one -/
def Condition.core (c : Condition) : Condition :=
  { c with id := 0, isFirst := false, control := .text }

namespace Query

variable {style : Style} {catalog : Catalog} {settings : Settings}

def core (q : Query) : Query := { q with conditions := q.conditions.map Condition.core }

theorem completeConditions_core (q : Query) :
    q.core.completeConditions = q.completeConditions.map Condition.core := by
  show (q.conditions.map Condition.core).filter (·.isComplete) = _
  rw [List.filter_map]
  rfl

theorem predicate_core (cs : List Condition) :
    predicate style catalog (cs.map Condition.core) = predicate style catalog cs := by
  cases cs with
  | nil => rfl
  | cons c cs =>
    show c.core.text style catalog ++
      String.join ((cs.map Condition.core).map (·.joined style catalog)) = _
    rw [List.map_map]
    rfl

theorem whereClause_core (q : Query) :
    q.core.whereClause style catalog = q.whereClause style catalog := by
  unfold whereClause
  rw [completeConditions_core]
  cases q.completeConditions with
  | nil => rfl
  | cons c cs =>
    show ["WHERE " ++ predicate style catalog ((c :: cs).map Condition.core)] = _
    rw [predicate_core]

theorem render_core (q : Query) : q.core.render style catalog = q.render style catalog := by
  have clauses_core : ∀ entity, q.core.clauses style catalog entity
      = q.clauses style catalog entity := by
    intro entity
    unfold clauses
    rw [whereClause_core]
    rfl
  unfold render
  simp only [clauses_core]
  rfl

theorem summary_core (q : Query) : q.core.summary = q.summary := by
  have filterInWords_core : q.core.filterInWords = q.filterInWords :=
    if_congr List.map_eq_nil_iff rfl rfl
  unfold summary
  rw [filterInWords_core]
  rfl

theorem applies_core (q : Query) (r : Rule) :
    r.applies settings catalog q.core = r.applies settings catalog q := by
  cases r with
  | unindexed =>
    show (!(q.conditions.map Condition.core).isEmpty &&
      !(q.conditions.map Condition.core).any _) = _
    rw [List.isEmpty_map, List.any_map]
    rfl
  | negative =>
    show (q.conditions.map Condition.core).any _ = _
    rw [List.any_map]
    rfl
  | _ => rfl

theorem review_core (q : Query) : q.core.review settings catalog = q.review settings catalog := by
  have findings_core : q.core.findings settings catalog = q.findings settings catalog := by
    unfold findings
    exact List.filter_congr fun r _ => applies_core q r
  unfold review grade
  rw [findings_core, summary_core]

end Query

end SoqlForm
