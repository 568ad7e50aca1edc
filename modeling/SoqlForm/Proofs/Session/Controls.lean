import SoqlForm.Proofs.Filter.Controls
import SoqlForm.Proofs.Session.Form

/-!
# The controls go with the catalog

The control of a condition is kept with the condition, and it is chosen from the catalog when its
field is set.  The catalog changes with the selection of an entity, which takes all conditions away,
and with the fields that come, when every control is chosen anew.

* `carries_retype_self`   a change of a condition may come before its control is chosen or behind it;
* `Edit.isTyped`, `Move.isTyped`   an edit and a move keep it so;
* `isTyped_after`     it is so on every run.
-/

namespace SoqlForm

namespace Condition

/-- a change may be made before the controls are chosen or behind it, when both take the same
catalog -/
theorem retype_change_self (catalog : Catalog) (c : Condition) (change : Change) :
    (c.change catalog change).retype catalog = (c.retype catalog).change catalog change := by
  cases change with
  | field name =>
    rw [change_field_retype]
    exact ite_self _
  | _ => exact retype_change_of_not_field (by rintro _ ⟨⟩) _ _ _ _

theorem carries_retype_self (catalog : Catalog) :
    Carries (retype catalog) (fun c => c) catalog catalog :=
  carries_of_retype_change (retype_change_self catalog)

end Condition

theorem Edit.isTyped {f g : Form} {e : Edit} {answer : Answer}
    (made : e.apply f = .ok (answer, g)) (h : f.filter.IsTyped f.catalog) :
    g.filter.IsTyped g.catalog := by
  have conditions : e.IsOnConditions → g.filter.IsTyped g.catalog := by
    intro hon
    have typed := Filter.isTyped_iff_corresponds.mp h
    rcases apply_corresponds (Condition.carries_retype_self f.catalog) typed hon with
      ⟨_, _, A, B, first, second, hAB⟩ | ⟨x, first, _⟩
    · -- the two edits of the correspondence are one and the same
      cases made.symm.trans first
      cases first.symm.trans second
      exact Filter.isTyped_iff_corresponds.mpr hAB
    · cases made.symm.trans first
  cases e with
  | addCondition => exact conditions trivial
  | removeCondition position => exact conditions trivial
  | updateCondition position change => exact conditions trivial
  | _ => cases made; exact h

namespace Session

variable {setup : Setup} {s s' : Session} {e : Event} {r : Response}

theorem Move.isTyped (m : Move setup s e r s') (h : s.form.filter.IsTyped s.form.catalog) :
    s'.form.filter.IsTyped s'.form.catalog := by
  cases m with
  | edited made =>
    have typed := Edit.isTyped made h
    exact typed
  | deselected _ => exact Filter.isTyped_of_no_conditions (Filter.conditions_clear s.form.filter)
  | selecting _ => exact Filter.isTyped_of_no_conditions (Filter.conditions_clear s.form.filter)
  | loaded _ _ => exact Filter.isTyped_retype s.form.filter _
  | tipsLoaded _ =>
    rename_i a _
    have kept := Form.sheet_settleTips s.form a
    have filter : (s.form.settleTips a).filter = s.form.filter := congrArg Sheet.filter kept
    have catalog : (s.form.settleTips a).catalog = s.form.catalog := congrArg Sheet.catalog kept
    show (s.form.settleTips a).filter.IsTyped (s.form.settleTips a).catalog
    rw [filter, catalog]
    exact h
  | _ => exact h

/-- **On every run the control of a condition is the one that the catalog gives to its field**,
whenever the field was set and whenever the fields came. -/
theorem isTyped_after (setup : Setup) (es : List Event) :
    ((fresh setup).after setup es).form.filter.IsTyped ((fresh setup).after setup es).form.catalog :=
  history_induction setup (P := fun _ s => s.form.filter.IsTyped s.form.catalog) rfl
    (fun _ h m => m.isTyped h) es

end Session

end SoqlForm
