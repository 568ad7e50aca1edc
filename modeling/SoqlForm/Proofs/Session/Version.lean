import SoqlForm.Proofs.Session.History

/-!
# The number of the last writing as a version

Every writing of the text has a number of its own.  The sheet of a form, that is the query with its
text, the catalog, the description and whether fields are awaited, goes with that number: while the
number stays, so does the sheet.  An appraisal is checked against the number alone.

* `Step.makesEdit`, `Step.arrives`, `arrivals`   the steps that write the text, beside selections;
* `rewritings_eq`         the three kinds add up;
* `Step.Passes`           the steps that leave the number as it is;
* `sheet_after_of_edits`  the sheet goes with the number;
* `version_after`         what the number counts, and what it stands for, on every run.
-/

namespace SoqlForm

namespace Step

def makesEdit : Step → Bool
  | (.edit _, .edited (.ok _)) => true
  | _ => false

/-- whether the fields come, or fail to come, that the last selection has asked for, given the
number under which it has asked -/
def arrives (fetch? : Option Nat) : Step → Bool
  | (.answer n _, .selected _) => fetch? == some n
  | _ => false

/-- whether a step is an edit that fails, a part of an execution, of an analysis or of the use of
tips, the end of an exchange that is given up, or an answer to an earlier selection -/
def Passes (fetch? : Option Nat) : Step → Prop
  | (.edit _, .edited (.error _)) => True
  | (.execute, _) => True
  | (.analyse, _) => True
  | (.loadTips, _) => True
  | (.nextTip, _) => True
  | (.drop _, _) => True
  | (.answer _ (.rows _), _) => True
  | (.answer _ (.score _), _) => True
  | (.answer _ (.tips _), _) => True
  | (.answer n (.fields _), _) => fetch? ≠ some n
  | _ => False

variable {fetch? : Option Nat} {st : Step}

theorem toNat_rewrites (fetch? : Option Nat) (st : Step) :
    (st.rewrites fetch?).toNat
      = st.makesEdit.toNat + st.selects.toNat + (st.arrives fetch?).toNat := by
  obtain ⟨e, r⟩ := st
  cases e with
  | edit e =>
    cases r with
    | edited result => cases result <;> rfl
    | _ => rfl
  | select name => rfl
  | answer n a =>
    cases r with
    | selected result => exact (Nat.zero_add _).symm
    | _ => rfl
  | _ => rfl

end Step

/-- how many answers come to selections that are the last one when the answer comes, given the
number under which the last selection before them has asked for the fields -/
def arrivals (fetch? : Option Nat) : List Step → Nat
  | [] => 0
  | st :: sts => (st.arrives fetch?).toNat + arrivals (st.fetchAfter fetch?) sts

theorem rewritings_eq (fetch? : Option Nat) (h : List Step) :
    rewritings fetch? h
      = h.countP Step.makesEdit + h.countP Step.selects + arrivals fetch? h := by
  induction h generalizing fetch? with
  | nil => rfl
  | cons st h ih =>
    have counted : ∀ p : Step → Bool, (st :: h).countP p = h.countP p + (p st).toNat := by
      intro p
      rw [List.countP_cons]
      cases p st <;> rfl
    rw [rewritings, arrivals, ih, st.toNat_rewrites, counted, counted]
    omega

namespace Session

variable {setup : Setup} {s s' : Session} {e : Event} {r : Response} {fetch? : Option Nat}

/-- a step that passes writes nothing; rows, appraisals and tips are never taken for the answer to a
selection -/
theorem Move.not_rewrites_of_passes (m : Move setup s e r s')
    (h : Step.Passes fetch? (e, r)) : Step.rewrites fetch? (e, r) = false := by
  cases m with
  | edited _ => exact h.elim
  | deselected _ => exact h.elim
  | selecting _ => exact h.elim
  | superseded _ _ => exact beq_false_of_ne h
  | loaded _ _ => exact beq_false_of_ne h
  | unloaded _ _ => exact beq_false_of_ne h
  | _ => rfl

theorem sheet_after_of_no_rewritings (h : Linked fetch? s) (es : List Event)
    (hno : rewritings fetch? (s.history setup es) = 0) :
    (s.after setup es).form.sheet = s.form.sheet := by
  induction es generalizing s fetch? with
  | nil => rfl
  | cons e es ih =>
    have m := step_move setup s e
    obtain ⟨first, rest⟩ := Nat.add_eq_zero_iff.mp hno
    rw [after_cons, ih (m.linked h) rest]
    exact m.sheet_of_not_rewrites h (Bool.toNat_eq_zero.mp first)

/-- the sheet goes with the number of the last writing -/
theorem sheet_after_of_edits (h : Linked fetch? s) {es : List Event}
    (same : (s.after setup es).form.edits = s.form.edits) :
    (s.after setup es).form.sheet = s.form.sheet := by
  apply sheet_after_of_no_rewritings h
  rw [edits_after h] at same
  exact Nat.add_eq_left.mp same

/-- **The number of the last writing is a version of the sheet.**  From 1 it counts the edits made,
the selections begun, and the answers, good or bad, to selections that are still the last one; two
points of a run with the same number have the same sheet; and no other step moves it. -/
theorem version_after (setup : Setup) (es : List Event) :
    let h := (fresh setup).history setup es
    let s := (fresh setup).after setup es
    s.form.edits = 1 + (h.countP Step.makesEdit + h.countP Step.selects + arrivals none h) ∧
      (∀ later, (s.after setup later).form.edits = s.form.edits →
        (s.after setup later).form.sheet = s.form.sheet) ∧
      ∀ e, Step.Passes (latestFetch? h) (e, (s.step setup e).1) →
        (s.step setup e).2.form.edits = s.form.edits := by
  intro h s
  have linked : Linked (latestFetch? h) s := linked_after setup es
  refine ⟨?_, fun later => sheet_after_of_edits linked, ?_⟩
  · rw [← rewritings_eq]
    exact edits_after linked_fresh es
  · intro e passes
    have m := step_move setup s e
    have hw := m.not_rewrites_of_passes passes
    exact congrArg Sheet.edits (m.sheet_of_not_rewrites linked hw)

/-- an edit that fails, an execution that fails and fields that come too late, behind fields that
fail to come in time -/
theorem version_after_failures :
    let setup : Setup := ⟨.standard, some .withTips⟩
    let es : List Event := [.select (some "Account"), .select (some "Contact"),
      .edit .addCondition, .answer 1 (.fields (.error .busy)), .execute]
    let later : List Event := [.edit (.removeCondition 1), .answer 2 (.rows (.error .busy)),
      .answer 0 (.fields (.ok ⟨none, []⟩))]
    ((fresh setup).after setup es).form.edits = 5 ∧
      (((fresh setup).after setup es).after setup later).form.edits = 5 ∧
      (((fresh setup).after setup es).after setup later).form.sheet
        = ((fresh setup).after setup es).form.sheet ∧
      (((fresh setup).after setup es).step setup (.drop 2)).2.form.edits
        = ((fresh setup).after setup es).form.edits := by
  intro setup es later
  obtain ⟨_, version, passing⟩ := version_after setup es
  have before : ((fresh setup).after setup es).form.edits = 5 := by decide +kernel
  have behind : (((fresh setup).after setup es).after setup later).form.edits = 5 := by
    decide +kernel
  exact ⟨before, behind, version later (behind.trans before.symm), passing (.drop 2) trivial⟩

end Session

end SoqlForm
