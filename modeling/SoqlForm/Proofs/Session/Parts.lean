import SoqlForm.Proofs.Session.History

/-!
# Edits of different parts

A form falls into parts, and every edit sets one of them.  It reads nothing but this part and the
catalog, which no edit changes, so edits of different parts may change places: each is answered as
before, and the form comes out the same.

* `Form.Part`, `Form.get`, `Form.put`   the parts of a form, to be read and to be set;
* `Edit.change`, `Edit.apply_eq`   an edit as a change of its part;
* `edit_comm`            two edits of different parts in either order;
* `Session.Independent`  two events that may change places, in every session;
* `Interleaved`          a list made of two others, each in its own order;
* `edits_commute`        two runs of edits on different parts, however they are interleaved.

The text and the verdict belong to no part.  They are written anew behind every edit that is made,
from the form alone, so of several writings the last one counts.
-/

namespace SoqlForm

/-! ### reading and setting a part -/

namespace Form

inductive Part where
  | fields
  | filter
  | order
  | direction
  | limit
  | offset
  deriving Repr, DecidableEq

abbrev Part.Content : Part → Type
  | fields => List String
  | filter => Filter
  | order => Option String
  | direction => Direction
  | limit => Option Nat
  | offset => Nat

def get (f : Form) : (p : Part) → p.Content
  | .fields => f.fields
  | .filter => f.filter
  | .order => f.orderBy
  | .direction => f.direction
  | .limit => f.limit
  | .offset => f.offset

def put (f : Form) : (p : Part) → p.Content → Form
  | .fields, fields => { f with fields := fields }
  | .filter, filter => { f with filter := filter }
  | .order, orderBy => { f with orderBy := orderBy }
  | .direction, direction => { f with direction := direction }
  | .limit, limit => { f with limit := limit }
  | .offset, offset => { f with offset := offset }

variable {settings : Settings}

theorem get_put (f : Form) (p q : Part) (x : p.Content) :
    (f.put p x).get q = if h : p = q then h ▸ x else f.get q := by
  cases p <;> cases q <;> rfl

theorem put_put (f : Form) (p q : Part) (x : p.Content) (y : q.Content) :
    (f.put p x).put q y = if p = q then f.put q y else (f.put q y).put p x := by
  cases p <;> cases q <;> rfl

theorem catalog_put (f : Form) (p : Part) (x : p.Content) : (f.put p x).catalog = f.catalog := by
  cases p <;> rfl

theorem get_refresh (f : Form) (p : Part) : (f.refresh settings).get p = f.get p := by
  cases p <;> rfl

/-- a writing before a part is set might as well come behind it -/
theorem refresh_put_refresh (f : Form) (p : Part) (x : p.Content) :
    ((f.refresh settings).put p x).refresh settings
      = ((f.put p x).refresh settings).refresh settings := by
  cases p <;> rfl

end Form

/-! ### an edit as a change of its part -/

namespace Edit

def part : Edit → Form.Part
  | toggleField .. => .fields
  | selectAllFields => .fields
  | clearFields => .fields
  | addCondition => .filter
  | removeCondition _ => .filter
  | updateCondition .. => .filter
  | sortBy _ => .order
  | setDirection _ => .direction
  | setLimit _ => .limit
  | setOffset _ => .offset

/-- the answer to an edit and what it makes of its part -/
def change (catalog : Catalog) :
    (e : Edit) → e.part.Content → Except Failure (Answer × e.part.Content)
  | toggleField name checked, fields => .ok (.done, toggle name checked fields)
  | selectAllFields, _ => .ok (.done, catalog.names)
  | clearFields, _ => .ok (.done, [])
  | addCondition, filter => .ok (.added filter.nextId, filter.append)
  | removeCondition position, filter =>
    (filter.remove position).map fun (c, filter) => (.removed c, filter)
  | updateCondition position change, filter =>
    (filter.update catalog position change).map fun filter => (.done, filter)
  | sortBy field, _ => .ok (.done, field.filter (· != ""))
  | setDirection direction, _ => .ok (.done, direction)
  | setLimit limit, _ =>
    .ok (.limited (limit.bind limitWarning?),
      (limit.map (min · Query.maxLimit)).filter (0 < ·))
  | setOffset offset, _ => .ok (.done, offset)

theorem apply_eq (f : Form) (e : Edit) :
    e.apply f = (e.change f.catalog (f.get e.part)).map fun (a, x) => (a, f.put e.part x) := by
  cases e with
  | removeCondition position =>
    show (f.filter.remove position).map _ = ((f.filter.remove position).map _).map _
    cases f.filter.remove position <;> rfl
  | updateCondition position change =>
    show (f.filter.update f.catalog position change).map _
      = ((f.filter.update f.catalog position change).map _).map _
    cases f.filter.update f.catalog position change <;> rfl
  | _ => rfl

/-- an edit that is made leaves the other parts alone -/
theorem get_of_made {f g : Form} {e : Edit} {answer : Answer} {p : Form.Part}
    (made : e.apply f = .ok (answer, g)) (hp : e.part ≠ p) : g.get p = f.get p := by
  rw [apply_eq] at made
  cases h : e.change f.catalog (f.get e.part) with
  | ok changed =>
    rw [h] at made
    cases made
    rw [Form.get_put, dif_neg hp]
  | error x =>
    rw [h] at made
    cases made

end Edit

namespace Form

variable {settings : Settings} {f : Form} {a b : Edit}

theorem edit_of_ok {answer : Edit.Answer} {x : a.part.Content}
    (made : a.change f.catalog (f.get a.part) = .ok (answer, x)) :
    f.edit settings a = (.ok answer, (f.put a.part x).refresh settings) := by
  rw [edit, Edit.apply_eq, made]
  rfl

theorem edit_of_error {failure : Failure}
    (failed : a.change f.catalog (f.get a.part) = .error failure) :
    f.edit settings a = (.error failure, f) := by
  rw [edit, Edit.apply_eq, failed]
  rfl

/-- what an edit of another part finds is as it was before -/
theorem change_edit_of_ne (settings : Settings) (f : Form) (h : a.part ≠ b.part) :
    b.change (f.edit settings a).2.catalog ((f.edit settings a).2.get b.part)
      = b.change f.catalog (f.get b.part) := by
  cases made : a.change f.catalog (f.get a.part) with
  | ok r =>
    rw [edit_of_ok made, catalog_refresh, catalog_put, get_refresh, get_put, dif_neg h]
  | error failure => rw [edit_of_error made]

theorem answer_edit_of_ne (settings : Settings) (f : Form) (h : a.part ≠ b.part) :
    ((f.edit settings a).2.edit settings b).1 = (f.edit settings b).1 := by
  have same := change_edit_of_ne settings f h
  cases made : b.change f.catalog (f.get b.part) with
  | ok r => rw [edit_of_ok made, edit_of_ok (same.trans made)]
  | error failure => rw [edit_of_error made, edit_of_error (same.trans made)]

/-- **Edits of different parts may change places.** -/
theorem edit_comm (settings : Settings) (f : Form) (h : a.part ≠ b.part) :
    ((f.edit settings a).2.edit settings b).2 = ((f.edit settings b).2.edit settings a).2 := by
  have behind_a := change_edit_of_ne settings f h
  have behind_b := change_edit_of_ne settings f (Ne.symm h)
  cases first : a.change f.catalog (f.get a.part) with
  | ok r =>
    cases second : b.change f.catalog (f.get b.part) with
    | ok r' =>
      rw [edit_of_ok (behind_a.trans second), edit_of_ok (behind_b.trans first), edit_of_ok first,
        edit_of_ok second]
      -- the writing between the two edits is moved behind them
      show (((f.put a.part r.2).refresh settings).put b.part r'.2).refresh settings
        = (((f.put b.part r'.2).refresh settings).put a.part r.2).refresh settings
      rw [refresh_put_refresh, refresh_put_refresh, put_put, if_neg h]
    | error failure =>
      rw [edit_of_error (behind_a.trans second), edit_of_error second]
  | error failure => rw [edit_of_error (behind_b.trans first), edit_of_error first]

end Form

/-! ### events that may change places -/

namespace Session

/-- two events that may change places in every session: each is answered as if the other were not
there, and the session comes out the same -/
structure Independent (setup : Setup) (d e : Event) : Prop where
  left : ∀ s : Session, ((s.step setup e).2.step setup d).1 = (s.step setup d).1
  right : ∀ s : Session, ((s.step setup d).2.step setup e).1 = (s.step setup e).1
  comm : ∀ s : Session, ((s.step setup d).2.step setup e).2 = ((s.step setup e).2.step setup d).2

variable {setup : Setup} {d : Event} {es : List Event}

theorem independent_edit {a b : Edit} (h : a.part ≠ b.part) :
    Independent setup (.edit a) (.edit b) where
  left s := congrArg Response.edited (Form.answer_edit_of_ne _ s.form (Ne.symm h))
  right s := congrArg Response.edited (Form.answer_edit_of_ne _ s.form h)
  comm s := congrArg s.withForm (Form.edit_comm _ s.form h)

theorem Independent.symm {e : Event} (h : Independent setup d e) : Independent setup e d :=
  ⟨h.right, h.left, fun s => (h.comm s).symm⟩

/-- an event that is independent of all events of a run may come before them or behind them -/
theorem step_past (h : ∀ e ∈ es, Independent setup d e) (s : Session) :
    (s.step setup d).2.history setup es = s.history setup es ∧
      (s.step setup d).2.after setup es = ((s.after setup es).step setup d).2 := by
  induction es generalizing s with
  | nil => exact ⟨rfl, rfl⟩
  | cons e es ih =>
    have he := h e List.mem_cons_self
    obtain ⟨answers, state⟩ := ih (fun e' he' => h e' (List.mem_cons_of_mem _ he'))
      (s.step setup e).2
    rw [history, history, after_cons, after_cons, he.right, he.comm]
    exact ⟨congrArg _ answers, state⟩

end Session

/-! ### interleavings -/

/-- a list is made of two others, each in its own order -/
inductive Interleaved {α : Type} : List α → List α → List α → Prop where
  | nil : Interleaved [] [] []
  | left {a : α} {as bs cs : List α} : Interleaved as bs cs → Interleaved (a :: as) bs (a :: cs)
  | right {b : α} {as bs cs : List α} : Interleaved as bs cs → Interleaved as (b :: bs) (b :: cs)

theorem Interleaved.map {α β : Type} (f : α → β) {as bs cs : List α} (h : Interleaved as bs cs) :
    Interleaved (as.map f) (bs.map f) (cs.map f) := by
  induction h with
  | nil => exact .nil
  | left _ ih => exact .left ih
  | right _ ih => exact .right ih

namespace Session

variable {setup : Setup} {ds es fs : List Event}

/-- two runs of independent events: in whatever way they are interleaved, every event is answered
as in its own run, and the session is the one behind both -/
theorem run_interleaved (mixed : Interleaved ds es fs)
    (h : ∀ d ∈ ds, ∀ e ∈ es, Independent setup d e) (s : Session) :
    Interleaved (s.history setup ds) (s.history setup es) (s.history setup fs) ∧
      s.after setup fs = (s.after setup ds).after setup es := by
  induction mixed generalizing s with
  | nil => exact ⟨.nil, rfl⟩
  | @left d ds es fs _ ih =>
    obtain ⟨answers, state⟩ := ih (fun d' hd' => h d' (List.mem_cons_of_mem _ hd'))
      (s.step setup d).2
    rw [(step_past (h d List.mem_cons_self) s).1] at answers
    exact ⟨.left answers, state⟩
  | @right e ds es fs _ ih =>
    -- the event comes from the second list, so it has to get past the whole first one
    have he : ∀ d ∈ ds, Independent setup e d := fun d hd => (h d hd e List.mem_cons_self).symm
    obtain ⟨answers, state⟩ := ih (fun d hd e' he' => h d hd e' (List.mem_cons_of_mem _ he'))
      (s.step setup e).2
    obtain ⟨answers_ds, state_ds⟩ := step_past he s
    rw [answers_ds] at answers
    rw [state_ds] at state
    exact ⟨.right answers, state⟩

/-- **Edits of different parts commute.**  Two lists of edits that have no part in common may be
interleaved in any way: every edit is answered as in its own list alone, and the session comes out
as if one list had been made behind the other. -/
theorem edits_commute (setup : Setup) (before : List Event) {as bs cs : List Edit}
    (apart : ∀ a ∈ as, ∀ b ∈ bs, a.part ≠ b.part) (mixed : Interleaved as bs cs) :
    let s := (fresh setup).after setup before
    Interleaved (s.history setup (as.map .edit)) (s.history setup (bs.map .edit))
        (s.history setup (cs.map .edit)) ∧
      s.after setup (cs.map .edit) = s.after setup ((as ++ bs).map .edit) := by
  intro s
  have independent : ∀ d ∈ as.map Event.edit, ∀ e ∈ bs.map Event.edit, Independent setup d e := by
    intro d hd e he
    obtain ⟨a, ha, rfl⟩ := List.mem_map.mp hd
    obtain ⟨b, hb, rfl⟩ := List.mem_map.mp he
    exact independent_edit (apart a ha b hb)
  rw [List.map_append, after_append]
  exact run_interleaved (mixed.map .edit) independent s

/-- conditions edited, once in vain, while a field is checked and too high a limit is set -/
theorem edits_commute_failed_edit :
    let setup : Setup := ⟨.standard, none⟩
    let s := (fresh setup).after setup [.select (some "Account")]
    let as : List Edit := [.addCondition, .removeCondition 1, .updateCondition 0 (.field "Name")]
    let bs : List Edit := [.setLimit (some 60000), .toggleField "Name" true]
    let cs : List Edit := [.setLimit (some 60000), .addCondition, .removeCondition 1,
      .toggleField "Name" true, .updateCondition 0 (.field "Name")]
    (∀ a ∈ as, ∀ b ∈ bs, a.part ≠ b.part) ∧ Interleaved as bs cs ∧
      Interleaved (s.history setup (as.map .edit)) (s.history setup (bs.map .edit))
        (s.history setup (cs.map .edit)) ∧
      s.after setup (cs.map .edit) = s.after setup ((as ++ bs).map .edit) := by
  intro setup s as bs cs
  have apart : ∀ a ∈ as, ∀ b ∈ bs, a.part ≠ b.part := by decide
  have mixed : Interleaved as bs cs := .right (.left (.left (.right (.left .nil))))
  exact ⟨apart, mixed, edits_commute setup [.select (some "Account")] apart mixed⟩

end Session

end SoqlForm
