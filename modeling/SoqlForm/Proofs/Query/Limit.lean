import SoqlForm.Proofs.Query.Summary
import Std.Data.String.ToNat

/-!
# The row limit of a query

Whatever limit is set, a query has the one that is sent: at most the greatest limit, and none for
zero.  Its text and its summary tell two such limits apart, and nothing else of the limits set.

* `effective`               the limit that is sent for a limit that is set;
* `render_withLimit`, `summary_withLimit`   the text and the summary around the limit;
* `render_withLimit_iff`, `summary_withLimit_iff`   when they are the same for two limits.
-/

namespace SoqlForm.Query

variable {style : Style} {catalog : Catalog} {q : Query} {e : String} {l l' : Option Nat} {n : Nat}

/-! ### the limit that is sent -/

/-- the limit that is sent for a limit that is set -/
def effective (limit : Option Nat) : Option Nat := (limit.map (min · maxLimit)).filter (0 < ·)

def withLimit (q : Query) (limit : Option Nat) : Query := { q with limit := limit }

theorem rowLimit?_withLimit (q : Query) (l : Option Nat) :
    (q.withLimit l).rowLimit? = effective l := rfl

theorem effective_some (n : Nat) :
    effective (some n) = if n = 0 then none else some (min n maxLimit) := by
  have hpos : 0 < min n maxLimit ↔ n ≠ 0 := by unfold maxLimit; omega
  rw [effective, Option.map_some, Option.filter_some]
  by_cases h : n = 0
  · rw [if_pos h, if_neg (by simpa [hpos] using h)]
  · rw [if_neg h, if_pos (by simpa [hpos] using h)]

theorem bounds_of_effective (h : n ∈ effective l) : 1 ≤ n ∧ n ≤ maxLimit := by
  cases l with
  | none => cases h
  | some m =>
    rw [effective_some] at h
    split at h
    · cases h
    · cases h
      exact ⟨by unfold maxLimit; omega, Nat.min_le_right _ _⟩

/-- a limit that is sent is sent as it is when it is set -/
theorem effective_effective (l : Option Nat) : effective (effective l) = effective l := by
  cases h : effective l with
  | none => rfl
  | some n =>
    obtain ⟨hpos, hle⟩ := bounds_of_effective h
    rw [effective_some, if_neg (by omega), Nat.min_eq_left hle]

/-! ### the text and the summary around the limit -/

/-- a number between two texts, where there is one -/
def numbered (before behind : String) : Option Nat → String
  | some n => before ++ n.repr ++ behind
  | none => ""

theorem numbered_inj {before behind : String} (hne : before ≠ "") :
    numbered before behind l = numbered before behind l' ↔ l = l' := by
  have hsome : ∀ n, numbered before behind (some n) ≠ "" := by
    intro n h
    exact hne (String.append_eq_empty_iff.mp (String.append_eq_empty_iff.mp h).1).1
  cases l with
  | none =>
    cases l' with
    | none => exact iff_of_true rfl rfl
    | some n => exact iff_of_false (hsome n).symm nofun
  | some m =>
    cases l' with
    | none => exact iff_of_false (hsome m) nofun
    | some n =>
      show before ++ m.repr ++ behind = before ++ n.repr ++ behind ↔ _
      rw [String.append_left_inj, String.append_right_inj, Nat.repr_inj, Option.some_inj]

def beforeLimit (style : Style) (catalog : Catalog) (q : Query) (entity : String) : String :=
  q.opening entity ++
    (if q.completeConditions = [] then "" else " WHERE " ++ filterText style catalog q.conditions) ++
    String.join (q.orderClause.map (" " ++ ·))

def behindLimit (q : Query) : String := String.join (q.offsetClause.map (" " ++ ·))

theorem join_limitClause (q : Query) :
    String.join (q.limitClause.map (" " ++ ·)) = numbered " LIMIT " "" q.rowLimit? := by
  have hword : " " ++ "LIMIT " = " LIMIT " := rfl
  unfold limitClause
  cases q.rowLimit? with
  | none => rfl
  | some n =>
    simp only [List.map_cons, List.map_nil, String.join_cons, String.join_nil, numbered]
    rw [← hword]
    simp only [String.append_assoc]

theorem render_withLimit (he : q.target? = some e) (l : Option Nat) :
    (q.withLimit l).render style catalog =
      q.beforeLimit style catalog e ++ numbered " LIMIT " "" (effective l) ++ q.behindLimit := by
  have htarget : (q.withLimit l).target? = some e := he
  rw [← (q.withLimit l).withConditions_self, render_withConditions htarget, ending,
    List.map_append, List.map_append, String.join_append, String.join_append, join_limitClause,
    rowLimit?_withLimit]
  simp only [beforeLimit, behindLimit, String.append_assoc]
  rfl

theorem summary_withLimit (he : q.target? = some e) (l : Option Nat) :
    (q.withLimit l).summary = q.summaryOpening e ++ q.filterInWords ++ q.sortingInWords ++
      numbered " limited to " " records" (effective l) ++ "." := by
  have hwords : (q.withLimit l).limitInWords
      = numbered " limited to " " records" (effective l) := by
    unfold limitInWords
    rw [rowLimit?_withLimit]
    cases effective l <;> rfl
  have htarget : (q.withLimit l).target? = some e := he
  rw [summary_eq htarget, summaryEnding, hwords]
  simp only [String.append_assoc]
  rfl

theorem render_withLimit_iff (he : q.target? = some e) :
    (q.withLimit l).render style catalog = (q.withLimit l').render style catalog ↔
      effective l = effective l' := by
  rw [render_withLimit he, render_withLimit he, String.append_left_inj, String.append_right_inj,
    numbered_inj (by decide)]

theorem summary_withLimit_iff (he : q.target? = some e) :
    (q.withLimit l).summary = (q.withLimit l').summary ↔ effective l = effective l' := by
  rw [summary_withLimit he, summary_withLimit he, String.append_left_inj, String.append_right_inj,
    numbered_inj (by decide)]

/-! ### the query with the limit that is sent -/

theorem render_effective (style : Style) (catalog : Catalog) (q : Query) :
    (q.withLimit q.rowLimit?).render style catalog = q.render style catalog := by
  cases he : q.target? with
  | none =>
    have hnone : ∀ l, (q.withLimit l).target? = none := fun _ => he
    rw [render, render, hnone, he]
  | some e => exact (render_withLimit_iff he).mpr (effective_effective q.limit)

theorem summary_effective (q : Query) : (q.withLimit q.rowLimit?).summary = q.summary := by
  cases he : q.target? with
  | none =>
    have hnone : ∀ l, (q.withLimit l).target? = none := fun _ => he
    rw [summary, summary, hnone, he]
  | some e => exact (summary_withLimit_iff he).mpr (effective_effective q.limit)

end SoqlForm.Query
