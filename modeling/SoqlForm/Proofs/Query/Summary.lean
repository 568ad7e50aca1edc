import SoqlForm.Proofs.Query.Filtering
import SoqlForm.Query.Summary
import Mathlib.Tactic.Tauto

/-!
# What the summary says of the filter

The summary mentions a filter as soon as there is a condition, while the text of the query has one
only if some condition is complete.  So the summary is that of the query as it is sent unless there
are conditions and none of them is complete.

* `summary_withConditions_iff`   the summary tells no conditions from some, and nothing else;
* `summary_of_completed`         where the summary speaks of the query that is sent;
* `summary_of_blank`             and a query of which it does not.
-/

namespace SoqlForm.Query

variable {q : Query} {e : String} {cs : List Condition}

def filterWords : String := ", with filtering conditions"

def summaryOpening (q : Query) (entity : String) : String :=
  "This query retrieves " ++ fieldsInWords q.fields ++ " from " ++ entity ++ " records"

def summaryEnding (q : Query) : String := q.sortingInWords ++ q.limitInWords ++ "."

theorem summary_eq (he : q.target? = some e) :
    q.summary = q.summaryOpening e ++ q.filterInWords ++ q.summaryEnding := by
  unfold summary summaryOpening summaryEnding
  rw [he]
  simp only [String.append_assoc]

theorem summary_withConditions (he : q.target? = some e) (cs : List Condition) :
    (q.withConditions cs).summary =
      q.summaryOpening e ++ (if cs = [] then "" else filterWords) ++ q.summaryEnding :=
  summary_eq (q := q.withConditions cs) he

theorem summary_withConditions_iff (he : q.target? = some e) (cs ds : List Condition) :
    (q.withConditions cs).summary = (q.withConditions ds).summary ↔ (cs = [] ↔ ds = []) := by
  have hwords : "" ≠ filterWords := by decide
  rw [summary_withConditions he, summary_withConditions he, String.append_left_inj,
    String.append_right_inj]
  by_cases hcs : cs = [] <;> by_cases hds : ds = []
  · simp [hcs, hds]
  · simp [hcs, hds, hwords]
  · simp [hcs, hds, hwords.symm]
  · simp [hcs, hds]

theorem summary_mentions_iff (he : q.target? = some e) :
    q.summary = q.summaryOpening e ++ filterWords ++ q.summaryEnding ↔ q.conditions ≠ [] := by
  have hwords : "" ≠ filterWords := by decide
  rw [← q.withConditions_self, summary_withConditions he, withConditions_self,
    String.append_left_inj, String.append_right_inj]
  by_cases hnone : q.conditions = []
  · simp [hnone, hwords]
  · simp [hnone]

theorem whereClause_ne_nil_iff (style : Style) (catalog : Catalog) (q : Query) :
    q.whereClause style catalog ≠ [] ↔ q.completeConditions ≠ [] := by
  unfold whereClause
  cases q.completeConditions with
  | nil => exact iff_of_false (fun h => h rfl) (fun h => h rfl)
  | cons c cs => exact iff_of_true (List.cons_ne_nil _ _) (List.cons_ne_nil _ _)

/-- **The summary is that of the query as it is sent**, without the conditions that are not
complete, exactly if there are no conditions or some condition is complete; and just then it speaks
of a filter exactly if the text of the query has one.  As long as some condition is complete,
conditions that are not may come and go. -/
theorem summary_of_completed (style : Style) (catalog : Catalog) (q : Query) (e : String)
    (he : q.target? = some e) :
    ((q.withConditions q.completeConditions).summary = q.summary ↔
        q.conditions = [] ∨ q.completeConditions ≠ []) ∧
      ((q.summary = q.summaryOpening e ++ filterWords ++ q.summaryEnding ↔
          q.whereClause style catalog ≠ []) ↔
        q.conditions = [] ∨ q.completeConditions ≠ []) ∧
      ∀ cs, q.completeConditions ≠ [] → cs.filter (·.isComplete) = q.completeConditions →
        (q.withConditions cs).summary = q.summary := by
  have hfewer : q.conditions = [] → q.completeConditions = [] := by
    intro hnone
    rw [completeConditions, hnone, List.filter_nil]
  have hsummary := fun cs => summary_withConditions_iff he cs q.conditions
  rw [withConditions_self] at hsummary
  refine ⟨?completed, ?mentions, fun cs hcomplete hcs => ?others⟩
  case completed =>
    rw [hsummary]
    tauto
  case mentions =>
    rw [summary_mentions_iff he, whereClause_ne_nil_iff]
    tauto
  case others =>
    have hne : cs ≠ [] := by
      rintro rfl
      exact hcomplete hcs.symm
    rw [hsummary]
    exact iff_of_false hne fun hnone => hcomplete (hfewer hnone)

/-- a condition that is complete behind one that is not -/
theorem summary_of_completed_behind_blank :
    let q := ((ofEntity "Account").filterBy (.blank 1)).filterBy (.make "Name" .equal "Acme" .and)
    q.target? = some "Account" ∧
      (q.withConditions q.completeConditions).summary = q.summary ∧
      q.summary = "This query retrieves the Id field from Account records" ++
        ", with filtering conditions." := by
  intro q
  have htarget : q.target? = some "Account" := by decide
  have hcomplete : q.completeConditions ≠ [] := by decide
  obtain ⟨hsent, -, -⟩ := summary_of_completed .standard .empty q "Account" htarget
  exact ⟨htarget, hsent.mpr (.inr hcomplete), by decide⟩

/-- with a blank condition alone, the summary speaks of a filter that the query does not have -/
theorem summary_of_blank :
    let q := (ofEntity "Account").filterBy (.make "" .equal "" .and)
    q.target? = some "Account" ∧ q.render .standard .empty = "SELECT Id FROM Account" ∧
      q.summary = "This query retrieves the Id field from Account records" ++
        ", with filtering conditions." ∧
      (q.withConditions q.completeConditions).summary =
        "This query retrieves the Id field from Account records." := by
  decide

end SoqlForm.Query
