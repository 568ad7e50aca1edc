import SoqlForm.Proofs.Session.History

/-!
# The text shown is the text of the choices

A form keeps the text of its query beside the choices that make it up, and the collaborators are
sent the text that is kept.

* `Form.IsRendered`     the text kept is that of the choices and the catalog;
* `Move.isRendered`     a move keeps it so;
* `text_after_is_rendered`  it is so on every run, and what is executed or appraised is that text.
-/

namespace SoqlForm

/-- whether the text of a form is the one that its choices and its catalog give -/
def Form.IsRendered (settings : Settings) (f : Form) : Prop :=
  f.text = f.query.render settings.style f.catalog

theorem Form.isRendered_refresh (settings : Settings) (f : Form) :
    (f.refresh settings).IsRendered settings := rfl

theorem Form.IsRendered.of_sheet_eq {settings : Settings} {f g : Form} (h : f.IsRendered settings)
    (hs : g.sheet = f.sheet) : g.IsRendered settings := by
  have ht : g.text = f.text := congrArg Sheet.text hs
  have hq : g.query = f.query := congrArg Sheet.query hs
  have hc : g.catalog = f.catalog := congrArg Sheet.catalog hs
  rw [IsRendered, ht, hq, hc]
  exact h

namespace Session

variable {setup : Setup} {s s' : Session} {e : Event} {r : Response}

theorem Move.isRendered (m : Move setup s e r s') (h : s.form.IsRendered setup.settings) :
    s'.form.IsRendered setup.settings := by
  by_cases hw : s.Writes e r
  · obtain ⟨f, hf, _⟩ := m.written hw
    rw [hf]
    exact f.isRendered_refresh setup.settings
  · exact h.of_sheet_eq (m.sheet_eq hw)

theorem isRendered_after (setup : Setup) (es : List Event) :
    ((fresh setup).after setup es).form.IsRendered setup.settings :=
  history_induction setup (P := fun _ s => s.form.IsRendered setup.settings)
    (Form.isRendered_refresh _ _) (fun _ h m => Move.isRendered m h) es

/-- **The text shown is always that of the choices, and so is every text that is executed or
appraised**, at the moment at which the store or the scoring service is asked. -/
theorem text_after_is_rendered (setup : Setup) (es : List Event) :
    let s := (fresh setup).after setup es
    s.form.text = s.form.query.render setup.settings.style s.form.catalog ∧
      ∀ (e : Event) (n : Nat) (text : String),
        (s.step setup e).1 = .awaits n (.rowsOf text) ∨
            (s.step setup e).1 = .awaits n (.scoreOf text) →
          text = s.form.query.render setup.settings.style s.form.catalog := by
  intro s
  have shown : s.form.text = s.form.query.render setup.settings.style s.form.catalog :=
    isRendered_after setup es
  refine ⟨shown, ?_⟩
  intro e n text asked
  have m := step_move setup s e
  rcases asked with asked | asked
  · rw [asked] at m
    rw [m.rowsOf.2, shown]
  · rw [asked] at m
    rw [m.scoreOf.2, shown]

/-- an analysis of a query with a condition, begun while the fields are awaited -/
theorem text_after_is_rendered_awaiting :
    let setup : Setup := ⟨.standard, some .plain⟩
    let s := (fresh setup).after setup [.select (some " Account "), .edit .addCondition,
      .edit (.updateCondition 0 (.field "Name")), .edit (.updateCondition 0 (.value "O'Neil"))]
    let text := "SELECT Id FROM Account WHERE Name = 'O'Neil' LIMIT 10"
    (s.step setup .analyse).1 = .awaits 1 (.scoreOf text) ∧
      text = s.form.query.render setup.settings.style s.form.catalog :=
  ⟨rfl, (text_after_is_rendered ⟨.standard, some .plain⟩ [.select (some " Account "),
    .edit .addCondition, .edit (.updateCondition 0 (.field "Name")),
    .edit (.updateCondition 0 (.value "O'Neil"))]).2 .analyse 1 _ (.inr rfl)⟩

end Session

end SoqlForm
