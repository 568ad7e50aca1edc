import SoqlForm.Proofs.Filter.Run

/-!
# The revision of a filter

Whoever shows a filter looks at its revision alone.  An operation either leaves the filter as it is
or puts the revision up, so that two points of a run with one revision have one filter.

* `Performs.eq_or_revision`   an operation changes nothing, or puts the revision up by one;
* `eq_or_revision_lt`         so does a run, by one or more;
* `revision_after_le`         the revision is at most the number of operations;
* `revision_after`            what the revision tells, on every run.
-/

namespace SoqlForm

namespace Filter

variable {f g : Filter} {o : Operation} {result : Except Failure Outcome} {position : Nat}
  {c : Condition} {x : Failure}

theorem revision_clear (f : Filter) :
    f.clear.revision = if f.conditions = [] then f.revision else f.revision + 1 := by
  unfold clear
  split <;> rfl

theorem revision_remove (made : f.remove position = .ok (c, g)) :
    g.revision = f.revision + 1 := by
  rw [(remove_eq_ok made).2, revision_revise]

theorem revision_update {catalog : Catalog} {change : Condition.Change}
    (made : f.update catalog position change = .ok g) : g.revision = f.revision + 1 := by
  obtain ⟨c, _, rfl⟩ := update_eq_ok made
  exact revision_revise f _

theorem Performs.eq_or_revision (p : Performs f o result g) :
    g = f ∨ g.revision = f.revision + 1 := by
  cases p with
  | appended => exact .inr rfl
  | removed stands => exact .inr rfl
  | notRemoved missing => exact .inl rfl
  | updated stands => exact .inr rfl
  | notUpdated missing => exact .inl rfl
  | retyped =>
    rename_i catalog
    rcases f.retype_cases catalog with ⟨_, same⟩ | revised
    · exact .inl same
    · exact .inr (congrArg revision revised)
  | cleared =>
    unfold clear
    split
    · exact .inl rfl
    · exact .inr rfl

theorem Performs.eq_of_error (p : Performs f o (.error x) g) : g = f := by
  cases p with
  | notRemoved missing => rfl
  | notUpdated missing => rfl

theorem eq_or_revision_lt (f : Filter) (os : List Operation) :
    f.after os = f ∨ f.revision < (f.after os).revision := by
  induction os generalizing f with
  | nil => exact .inl rfl
  | cons o os ih =>
    rw [after_cons]
    rcases (performs_perform f o).eq_or_revision with same | up
    · rw [same]
      exact ih f
    · right
      have first : f.revision < (f.perform o).2.revision := by omega
      rcases ih (f.perform o).2 with same | up'
      · rwa [same]
      · exact Nat.lt_trans first up'

theorem revision_after_le (f : Filter) (os : List Operation) :
    (f.after os).revision ≤ f.revision + os.length := by
  induction os generalizing f with
  | nil => exact Nat.le_refl _
  | cons o os ih =>
    have rest := ih (f.perform o).2
    rw [after_cons, List.length_cons]
    rcases (performs_perform f o).eq_or_revision with same | up
    · rw [same] at rest ⊢
      omega
    · omega

/-- **The revision tells every change.**  Along a run it never goes down, and two points of a run
with the same revision have the same filter.  It counts no more than the operations.  A condition
that is added, removed or updated puts it up by one, and so does a clearing that takes conditions
out; an operation that fails changes nothing. -/
theorem revision_after (before between : List Operation) :
    let f := empty.after before
    let g := empty.after (before ++ between)
    f.revision ≤ g.revision ∧
      (f.revision = g.revision → f = g) ∧
      f.revision ≤ before.length ∧
      f.append.revision = f.revision + 1 ∧
      (∀ i c h, f.remove i = .ok (c, h) → h.revision = f.revision + 1) ∧
      (∀ catalog i change h, f.update catalog i change = .ok h → h.revision = f.revision + 1) ∧
      f.clear.revision = (if f.conditions = [] then f.revision else f.revision + 1) ∧
      ∀ o x, (f.perform o).1 = .error x → (f.perform o).2 = f := by
  intro f g
  have hg : g = f.after between := List.foldl_append
  have moved := eq_or_revision_lt f between
  rw [← hg] at moved
  refine ⟨?_, ?_, ?_, rfl, fun _ _ _ => revision_remove, fun _ _ _ _ => revision_update,
    revision_clear f, ?_⟩
  · rcases moved with same | up
    · exact Nat.le_of_eq (congrArg revision same.symm)
    · exact Nat.le_of_lt up
  · intro hrevision
    rcases moved with same | up
    · exact same.symm
    · omega
  · have counted := revision_after_le empty before
    rwa [show empty.revision = 0 from rfl, Nat.zero_add] at counted
  · intro o x failed
    have p := performs_perform f o
    rw [failed] at p
    exact p.eq_of_error

/-- a removal that fails and controls that stay, between two points with the same revision -/
theorem revision_after_idle :
    let before : List Operation := [.append, .update .empty 0 (.field "Name")]
    let between : List Operation := [.remove 1, .retype .empty]
    let f := empty.after before
    let g := empty.after (before ++ between)
    f.revision = g.revision ∧ f = g ∧
      (∃ c h, f.remove 0 = .ok (c, h) ∧ h.revision = f.revision + 1) ∧
      (∃ h, f.update .empty 0 (.value "Acme") = .ok h ∧ h.revision = f.revision + 1) ∧
      (f.perform (.remove 1)).1 = .error (.noCondition 1) ∧ (f.perform (.remove 1)).2 = f := by
  intro before between f g
  obtain ⟨_, same, _, _, removed, updated, _, failed⟩ := revision_after before between
  have hrevision : f.revision = g.revision := by decide
  exact ⟨hrevision, same hrevision, ⟨_, _, rfl, removed 0 _ _ rfl⟩,
    ⟨_, rfl, updated .empty 0 (.value "Acme") _ rfl⟩, rfl, failed (.remove 1) _ rfl⟩

end Filter

end SoqlForm
