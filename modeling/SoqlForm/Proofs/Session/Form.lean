import SoqlForm.Proofs.Session.Filter

/-!
# Edits and answers, form by form

What an edit or the answer of the metadata source makes of a form, whatever session it stands in.

* `Edit.isMarked`        an edit marks the first condition, and no other;
* `apply_corresponds`    edits of conditions that correspond;
* `Form.receive`         the form once the source has answered its last selection;
* `selected_edit`        what belongs to the selection is left alone by an edit;
* `isMarked_after`       the first condition is marked, on every run.
-/

namespace SoqlForm

/-! ### edits of the conditions -/

namespace Edit

variable {f g : Form} {e : Edit}

def IsOnConditions : Edit → Prop
  | addCondition => True
  | removeCondition _ => True
  | updateCondition _ _ => True
  | _ => False

theorem isMarked {answer : Answer} (made : e.apply f = .ok (answer, g)) (h : f.filter.IsMarked) :
    g.filter.IsMarked := by
  rw [filter_of_made made]
  exact Filter.isMarked_after h _

/-- on filters that correspond an edit of the conditions is made twice, or it fails twice -/
theorem apply_corresponds {k j : Condition → Condition}
    (carries : Condition.Carries k j f.catalog g.catalog)
    (h : f.filter.Corresponds k j g.filter) (he : e.IsOnConditions) :
    (∃ a b A B, e.apply f = .ok (a, { f with filter := A }) ∧
        e.apply g = .ok (b, { g with filter := B }) ∧ A.Corresponds k j B) ∨
      ∃ x, e.apply f = .error x ∧ e.apply g = .error x := by
  cases e with
  | addCondition => exact .inl ⟨_, _, _, _, rfl, rfl, h.append carries⟩
  | removeCondition position =>
    rw [apply, apply]
    cases hr : f.filter.remove position with
    | ok removed =>
      obtain ⟨d, B, hr', corresponds⟩ := h.remove carries hr
      rw [hr']
      exact .inl ⟨_, _, _, _, rfl, rfl, corresponds⟩
    | error x =>
      rw [h.remove_error hr]
      exact .inr ⟨x, rfl, rfl⟩
  | updateCondition position change =>
    rw [apply, apply]
    cases hu : f.filter.update f.catalog position change with
    | ok A =>
      obtain ⟨B, hu', corresponds⟩ := h.update carries hu
      rw [hu']
      exact .inl ⟨_, _, _, _, rfl, rfl, corresponds⟩
    | error x =>
      rw [h.update_error hu]
      exact .inr ⟨x, rfl, rfl⟩
  | _ => exact he.elim

end Edit

/-! ### edits and answers -/

namespace Form

variable (settings : Settings)

def ready (f : Form) : Form := { f with isPending := false }

/-- the form once the source has answered the selection of an entity -/
def receive (entity : String) (answer : Except Failure Entity) (f : Form) : Form :=
  match answer with
  | .ok m => ({ f with isPending := false }.load entity m).refresh settings
  | .error _ => { f with isPending := false }.refresh settings

def edited (edits : List Edit) (f : Form) : Form :=
  edits.foldl (fun f e => (f.edit settings e).2) f

/-- what a form has from its selection, and edits leave alone -/
def selected (f : Form) : Catalog × Option String × Nat := (f.catalog, f.description, f.selections)

variable {settings} {f : Form}

theorem receive_ok (entity : String) (m : Entity) :
    f.receive settings entity (.ok m) = (f.ready.load entity m).refresh settings := rfl

theorem receive_error (entity : String) (x : Failure) :
    f.receive settings entity (.error x) = f.ready.refresh settings := rfl

theorem settleSelection_of_latest {t : SelectionTicket} (latest : f.selections = t.number)
    (a : Except Failure Entity) :
    (f.settleSelection settings t a).2 = f.receive settings t.entity a := by
  unfold settleSelection
  rw [if_neg (not_not_intro latest)]
  cases a <;> rfl

theorem selected_edit (settings : Settings) (f : Form) (e : Edit) :
    (f.edit settings e).2.selected = f.selected := by
  unfold edit
  cases h : e.apply f with
  | ok made =>
    have kept := congrArg selected (Edit.apply_frame h)
    exact kept
  | error x => rfl

theorem selected_edited (settings : Settings) (f : Form) (es : List Edit) :
    (f.edited settings es).selected = f.selected := by
  induction es generalizing f with
  | nil => rfl
  | cons e es ih => exact (ih _).trans (selected_edit settings f e)

theorem isMarked_edit (settings : Settings) (h : f.filter.IsMarked) (e : Edit) :
    (f.edit settings e).2.filter.IsMarked := by
  rw [filter_edit]
  exact Filter.isMarked_after h _

theorem isMarked_edited (settings : Settings) (h : f.filter.IsMarked) (es : List Edit) :
    (f.edited settings es).filter.IsMarked := by
  induction es generalizing f with
  | nil => exact h
  | cons e es ih => exact ih (isMarked_edit settings h e)

theorem isMarked_receive (h : f.filter.IsMarked) (entity : String) (a : Except Failure Entity) :
    (f.receive settings entity a).filter.IsMarked := by
  cases a with
  | ok m => exact Filter.isMarked_retype h _
  | error x => exact h

end Form

namespace Session

theorem isMarked_after (setup : Setup) (es : List Event) :
    ((fresh setup).after setup es).form.filter.IsMarked := (orderly_after setup es).marked

end Session

end SoqlForm
