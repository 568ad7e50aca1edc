import SoqlForm.Proofs.Filter
import SoqlForm.Proofs.Session.Execution

/-!
# Failures leave no trace

An operation can fail at once, as an edit does that names no condition, or with the answer to its
question.  Whatever went on in between, a failure changes nothing in the form but the flag that the
operation has set itself, and that one is as it was before.

* `Edit.apply_eq_error`   the edits that fail, and how;
* `Form.executionObstacle?_eq_some`   how an execution is turned away;
* `Failure.cause`, `answer_rows_error`   how an execution fails that has begun;
* `answer_tips_of_none`   tips that do not come;
* `failures_leave_no_trace`   what becomes of all of these on every run.
-/

namespace SoqlForm

/-- what a failed execution tells of its cause: the text of a failed execution as it stands, and
the message of any other failure -/
def Failure.cause : Failure → String
  | executionFailed text => text
  | x => x.message

theorem Failure.asExecution_eq (x : Failure) : x.asExecution = .executionFailed x.cause := by
  cases x <;> rfl

theorem map_eq_error {α β : Type} {k : α → β} {a : Except Failure α} {x : Failure} :
    a.map k = .error x ↔ a = .error x := by
  cases a with
  | ok a => exact iff_of_false nofun nofun
  | error y =>
    constructor
    · rintro ⟨⟩
      rfl
    · rintro ⟨⟩
      rfl

namespace Edit

def position? : Edit → Option Nat
  | removeCondition position => some position
  | updateCondition position _ => some position
  | _ => none

/-- an edit fails if and only if it is about a condition that is not there -/
theorem apply_eq_error {f : Form} {e : Edit} {x : Failure} :
    e.apply f = .error x ↔
      ∃ position, e.position? = some position ∧ f.filter.size ≤ position ∧
        x = .noCondition position := by
  cases e with
  | removeCondition position =>
    rw [apply, map_eq_error, Filter.remove_eq_error]
    constructor
    · intro failed
      exact ⟨position, rfl, failed⟩
    · rintro ⟨_, ⟨⟩, failed⟩
      exact failed
  | updateCondition position change =>
    rw [apply, map_eq_error, Filter.update_eq_error]
    constructor
    · intro failed
      exact ⟨position, rfl, failed⟩
    · rintro ⟨_, ⟨⟩, failed⟩
      exact failed
  | _ =>
    constructor
    · intro failed
      cases failed
    · rintro ⟨_, ⟨⟩, _⟩

end Edit

theorem Form.executionObstacle?_eq_some {f : Form} {x : Failure}
    (obstacle : f.executionObstacle? = some x) : x = nothingToExecute ∨ x = .busy := by
  unfold executionObstacle? at obstacle
  split at obstacle
  · cases obstacle
    exact .inl rfl
  · split at obstacle
    · cases obstacle
      exact .inr rfl
    · cases obstacle

namespace Session

variable {setup : Setup} {s s' : Session} {e : Edit} {n : Nat} {x : Failure}

theorem Move.edit_error (m : Move setup s (.edit e) (.edited (.error x)) s') :
    e.apply s.form = .error x ∧ s' = s := by
  cases m with
  | refused failed => exact ⟨failed, rfl⟩

theorem step_edit_error (failed : e.apply s.form = .error x) :
    s.step setup (.edit e) = (.edited (.error x), s) := by
  rw [step, Form.edit, failed]
  rfl

theorem step_edit_eq_error :
    s.step setup (.edit e) = (.edited (.error x), s') ↔ e.apply s.form = .error x ∧ s' = s := by
  constructor
  · intro failed
    have m := step_move setup s (.edit e)
    rw [failed] at m
    exact m.edit_error
  · rintro ⟨failed, rfl⟩
    exact step_edit_error failed

theorem Move.execute_error (m : Move setup s .execute (.executed (.error x)) s') :
    s.form.executionObstacle? = some x ∧ s' = s := by
  cases m with
  | hindered obstacle => exact ⟨obstacle, rfl⟩

theorem Move.execute_asks {q : Question} (m : Move setup s .execute (.awaits n q) s') :
    s.exchangeFor q = .execution ∧ s.form.isExecuting = false := by
  cases m with
  | executing free => exact ⟨rfl, (isExecuting_of_no_obstacle free).2⟩

theorem answer_rows_error (asked : s.exchange? n = some .execution) (x : Failure) :
    s.step setup (.answer n (.rows (.error x)))
      = (.executed (.error (.executionFailed x.cause)), s.settled n s.form.endExecution) := by
  rw [step, answer, asked, ← x.asExecution_eq]
  rfl

theorem answer_tips_of_none {a : Except Failure (List String)}
    (asked : s.exchange? n = some .tips) (hnone : ∀ tips, a = .ok tips → tips = []) :
    s.step setup (.answer n (.tips a)) = (.tipsLoaded, s.without n) := by
  rw [step, answer, asked]
  cases a with
  | error x => rfl
  | ok tips =>
    cases hnone tips rfl
    rfl

theorem Move.loadTips_form {r : Response} (m : Move setup s .loadTips r s') :
    s'.form = s.form := by
  cases m <;> rfl

/-- **Failures leave no trace.**  An edit fails if and only if it is about a condition that is not
there, and an execution that is turned away has changed nothing either.  An execution that the store
rejects leaves the form as the failure finds it, and the flag as the execution found it; the failure
is told as a failed execution, of whatever kind it was.  Tips that fail to come, and an empty list
of them, leave those that are there. -/
theorem failures_leave_no_trace (setup : Setup) (es : List Event) :
    let s := (fresh setup).after setup es
    (∀ e x s', s.step setup (.edit e) = (.edited (.error x), s') ↔
      (∃ position, e.position? = some position ∧ s.form.filter.size ≤ position ∧
        x = .noCondition position) ∧ s' = s) ∧
      (∀ x s', s.step setup .execute = (.executed (.error x), s') →
        (x = Form.nothingToExecute ∨ x = .busy) ∧ s' = s) ∧
      (∀ before between n q x, es = before ++ .execute :: between →
        let begun := (fresh setup).after setup before
        (begun.step setup .execute).1 = .awaits n q → s.exchange? n ≠ none →
        s.step setup (.answer n (.rows (.error x)))
          = (.executed (.error (.executionFailed x.cause)),
            s.settled n { s.form with isExecuting := begun.form.isExecuting })) ∧
      (s.step setup .loadTips).2.form = s.form ∧
      ∀ n a, s.exchange? n = some .tips → (∀ tips, a = .ok tips → tips = []) →
        s.step setup (.answer n (.tips a)) = (.tipsLoaded, s.without n) := by
  intro s
  refine ⟨?_, ?_, ?_, (step_move setup s .loadTips).loadTips_form,
    fun n a => answer_tips_of_none⟩
  · intro e x s'
    rw [step_edit_eq_error, Edit.apply_eq_error]
  · intro x s' failed
    have m := step_move setup s .execute
    rw [failed] at m
    obtain ⟨obstacle, same⟩ := m.execute_error
    exact ⟨Form.executionObstacle?_eq_some obstacle, same⟩
  · intro before between n q x hes begun asked open_
    have m := step_move setup begun .execute
    rw [asked] at m
    obtain ⟨execution, free⟩ := m.execute_asks
    have hs : s = begun.after setup (.execute :: between) := by
      rw [← after_append, ← hes]
    have held : s.exchange? n = some .execution := by
      rw [hs, ← execution]
      exact exchange?_still (linked_after setup before).numbered asked (hs ▸ open_)
    rw [answer_rows_error held, free]
    rfl

/-- an edit of a condition behind the last one, and a store that breaks down with another failure
than its own while the tips fail to come -/
theorem failures_leave_no_trace_of_breakdown :
    let setup : Setup := ⟨.standard, some .withTips⟩
    let before : List Event := [.select (some "Account"), .loadTips]
    let between : List Event := [.edit .addCondition]
    let es := before ++ .execute :: between
    ((fresh setup).after setup es).step setup (.edit (.removeCondition 1))
        = (.edited (.error (.noCondition 1)), (fresh setup).after setup es) ∧
      (((fresh setup).after setup before).step setup .execute).1
        = .awaits 2 (.rowsOf "SELECT Id FROM Account LIMIT 10") ∧
      ((fresh setup).after setup es).exchange? 2 ≠ none ∧
      (((fresh setup).after setup es).step setup (.answer 2 (.rows (.error (.unreadable "eof"))))).1
        = .executed (.error (.executionFailed "JSON error: eof")) ∧
      ((fresh setup).after setup es).step setup .execute
        = (.executed (.error .busy), (fresh setup).after setup es) ∧
      ((fresh setup).after setup es).exchange? 1 = some .tips ∧
      ((fresh setup).after setup es).step setup (.answer 1 (.tips (.ok [])))
        = (.tipsLoaded, ((fresh setup).after setup es).without 1) := by
  intro setup before between es
  obtain ⟨edits, obstacles, rejections, _, tips⟩ := failures_leave_no_trace setup es
  have asked : (((fresh setup).after setup before).step setup .execute).1
      = .awaits 2 (.rowsOf "SELECT Id FROM Account LIMIT 10") := rfl
  have open_ : ((fresh setup).after setup es).exchange? 2 ≠ none := by decide +kernel
  have rejected := rejections before between 2 _ (.unreadable "eof") rfl asked open_
  have tipsAsked : ((fresh setup).after setup es).exchange? 1 = some .tips := rfl
  have busy : (((fresh setup).after setup es).step setup .execute).1 = .executed (.error .busy) :=
    rfl
  have unchanged := (obstacles .busy _ (Prod.ext busy rfl)).2
  refine ⟨(edits _ _ _).mpr ⟨⟨1, rfl, ?_, rfl⟩, rfl⟩, asked, open_, ?_, ?_, tipsAsked, ?_⟩
  · decide +kernel
  · rw [rejected]
    rfl
  · exact Prod.ext busy unchanged
  · exact tips 1 _ tipsAsked (fun _ h => (Except.ok.inj h).symm)

end Session

end SoqlForm
