import SoqlForm.Proofs.Filter.Run
import SoqlForm.Proofs.Session.History

/-!
# The filter of a session

A session edits its filter by the operations of a filter, at most one with each event, so that what
holds on every run of a filter holds of the filter of a session.  A condition is followed through a
run by its id: it may stand at another position behind every event.

* `Edit.operation?`       the operation that an edit amounts to;
* `Session.changeOf?`     the change that an event makes to the condition with an id;
* `Move.operation`        the operation that a move amounts to;
* `orderly_after`         ids and marks of the conditions, on every run.
-/

namespace SoqlForm

def Edit.operation? (catalog : Catalog) : Edit → Option Filter.Operation
  | addCondition => some .append
  | removeCondition position => some (.remove position)
  | updateCondition position change => some (.update catalog position change)
  | _ => none

theorem Form.filter_edit (settings : Settings) (f : Form) (e : Edit) :
    (f.edit settings e).2.filter = f.filter.after (e.operation? f.catalog).toList := by
  cases e with
  | removeCondition position =>
    rw [edit, Edit.apply, Edit.operation?, Option.toList_some, Filter.after_cons, Filter.perform]
    cases f.filter.remove position <;> rfl
  | updateCondition position change =>
    rw [edit, Edit.apply, Edit.operation?, Option.toList_some, Filter.after_cons, Filter.perform]
    cases f.filter.update f.catalog position change <;> rfl
  | _ => rfl

theorem Edit.filter_of_made {f g : Form} {e : Edit} {answer : Answer}
    (made : e.apply f = .ok (answer, g)) :
    g.filter = f.filter.after (e.operation? f.catalog).toList := by
  have filter := Form.filter_edit .standard f e
  rw [Form.edit, made] at filter
  exact filter

theorem Edit.filter_of_failed {f : Form} {e : Edit} {x : Failure} (failed : e.apply f = .error x) :
    f.filter = f.filter.after (e.operation? f.catalog).toList := by
  have filter := Form.filter_edit .standard f e
  rw [Form.edit, failed] at filter
  exact filter

namespace Session

def changeOf? (s : Session) (id : Nat) : Event → Option Condition.Change
  | .edit (.updateCondition position change) =>
    if s.form.filter.ids[position]? = some id then some change else none
  | _ => none

variable {setup : Setup} {s s' : Session} {e : Event} {r : Response}

theorem changeOf?_edit (s : Session) (id : Nat) (e : Edit) :
    (e.operation? s.form.catalog).bind (s.form.filter.changeOf? id) = s.changeOf? id (.edit e) := by
  cases e <;> rfl

/-- an event amounts to one operation on the filter at most, and both make the same changes -/
theorem Move.operation (m : Move setup s e r s') : ∃ o? : Option Filter.Operation,
    s'.form.filter = s.form.filter.after o?.toList ∧
      ∀ id, o?.bind (s.form.filter.changeOf? id) = s.changeOf? id e := by
  cases m with
  | edited made =>
    have filter := Edit.filter_of_made made
    exact ⟨_, filter, fun id => changeOf?_edit s id _⟩
  | refused failed => exact ⟨_, Edit.filter_of_failed failed, fun id => changeOf?_edit s id _⟩
  | deselected _ => exact ⟨some .clear, rfl, fun _ => rfl⟩
  | selecting _ => exact ⟨some .clear, rfl, fun _ => rfl⟩
  | loaded _ _ => exact ⟨some (.retype _), rfl, fun _ => rfl⟩
  | tipsLoaded _ =>
    exact ⟨none, congrArg Sheet.filter (Form.sheet_settleTips s.form _), fun _ => rfl⟩
  | _ => exact ⟨none, rfl, fun _ => rfl⟩

theorem Move.orderly (m : Move setup s e r s') (h : s.form.filter.Orderly) :
    s'.form.filter.Orderly := by
  obtain ⟨o?, filter, _⟩ := m.operation
  rw [filter]
  exact Filter.orderly_after h _

theorem orderly_after (setup : Setup) (es : List Event) :
    ((fresh setup).after setup es).form.filter.Orderly :=
  history_induction setup (P := fun _ s => s.form.filter.Orderly) Filter.orderly_empty
    (fun _ h m => m.orderly h) es

end Session

end SoqlForm
