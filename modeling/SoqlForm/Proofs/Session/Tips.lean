import SoqlForm.Proofs.Rotation
import SoqlForm.Proofs.Session.History

/-!
# The tip that is shown

The tips are those of the settings until the scoring service gives others.  A list that is not empty
replaces them when it comes, whenever it was asked for, and is shown from its first tip on.  Nothing
but this and the turning to the next tip moves the rotation.

* `latestTips?`, `turnsSince`   the tips that have come last, and how often the rotation has been
                     turned since;
* `Move.tips`        what a move does to the rotation;
* `rotation_after`   the rotation on every run is that of the latest tips, turned so often;
* `tips_after`       the tip shown, the one that comes next and a whole turn.
-/

namespace SoqlForm

def Event.tips? : Event → Option (List String)
  | .answer _ (.tips (.ok (tip :: tips))) => some (tip :: tips)
  | _ => none

namespace Step

/-- the tips that the scoring service gives in a step, if it gives any -/
def tips? : Step → Option (List String)
  | (e, .tipsLoaded) => e.tips?
  | _ => none

def turns : Step → Bool
  | (.nextTip, _) => true
  | _ => false

def rotate (r : Rotation) (st : Step) : Rotation :=
  match st.tips? with
  | some tips => .start tips
  | none => if st.turns then r.advance else r

theorem rotate_of_still {st : Step} (r : Rotation) (loads : st.tips? = none)
    (turns : st.turns = false) : st.rotate r = r := by
  rw [rotate, loads, turns]
  rfl

end Step

def latestTips? (h : List Step) : Option (List String) := h.reverse.findSome? Step.tips?

/-- how often the rotation has been turned since then, or in the whole history -/
def turnsSince (h : List Step) : Nat :=
  (h.reverse.takeWhile (·.tips?.isNone)).countP Step.turns

def rotationBehind (first : List String) (h : List Step) : Rotation :=
  Rotation.advance^[turnsSince h] (.start ((latestTips? h).getD first))

theorem rotationBehind_concat (first : List String) (h : List Step) (st : Step) :
    rotationBehind first (h ++ [st]) = st.rotate (rotationBehind first h) := by
  rw [rotationBehind, latestTips?, turnsSince, List.reverse_append, List.reverse_singleton,
    List.singleton_append, List.findSome?_cons, List.takeWhile_cons, Step.rotate]
  cases hloads : st.tips? with
  | some tips => rfl
  | none =>
    show Rotation.advance^[(st :: h.reverse.takeWhile (·.tips?.isNone)).countP Step.turns]
      (.start ((latestTips? h).getD first)) = _
    rw [List.countP_cons]
    cases hturns : st.turns with
    | true => exact Function.iterate_succ_apply' _ _ _
    | false => rfl

namespace Session

variable {setup : Setup} {s s' : Session} {e : Event} {r : Response}

theorem Move.tips (m : Move setup s e r s') : s'.form.tips = Step.rotate s.form.tips (e, r) := by
  cases m with
  | edited made =>
    have kept := congrArg Form.tips (Edit.apply_frame made)
    exact kept
  | tipsLoaded _ =>
    rename_i a _
    rcases a with _ | _ | _ <;> rfl
  | _ => rfl

theorem rotation_after (setup : Setup) (es : List Event) :
    ((fresh setup).after setup es).form.tips
      = rotationBehind setup.settings.tips ((fresh setup).history setup es) := by
  refine history_induction setup
    (P := fun h s => s.form.tips = rotationBehind setup.settings.tips h) rfl ?_ es
  intro h s e r s' _ ih m
  rw [rotationBehind_concat, m.tips, ih]

/-! ### several turns -/

/-- the session with its tips in another place of the rotation -/
def withTips (s : Session) (tips : Rotation) : Session :=
  s.withForm { s.form with tips := tips }

theorem after_nextTips (setup : Setup) (s : Session) (n : Nat) :
    s.after setup (.replicate n .nextTip) = s.withTips (Rotation.advance^[n] s.form.tips) := by
  induction n with
  | zero => rfl
  | succ n ih =>
    rw [List.replicate_succ', after_concat, ih, Function.iterate_succ_apply']
    rfl

theorem responses_nextTips (setup : Setup) (s : Session) (n : Nat) :
    (s.run setup (.replicate n .nextTip)).1
      = (List.range n).map fun i => .tip (Rotation.advance^[i + 1] s.form.tips).current? := by
  induction n with
  | zero => rfl
  | succ n ih =>
    rw [← map_snd_history] at ih ⊢
    rw [List.replicate_succ', history_concat, List.map_append, ih, after_nextTips,
      List.range_succ, List.map_append, List.map_singleton, List.map_singleton,
      Function.iterate_succ_apply']
    rfl

/-- **The tip shown on every run.**  With the tips that have come last, by the order in which they
came, or those of the settings, and the number of turns since: there is no tip just if there are no
tips; the tip shown and the next one are found by counting the turns round; as many turns as there
are tips go through all positions once, show each tip, and leave the session as it was; and a step
that brings no tips and is no turn leaves the rotation as it is. -/
theorem tips_after (setup : Setup) (es : List Event) :
    let s := (fresh setup).after setup es
    let h := (fresh setup).history setup es
    let tips := (latestTips? h).getD setup.settings.tips
    let k := turnsSince h
    (s.form.tips.current? = none ↔ tips = []) ∧
      s.form.tips.current? = tips[k % tips.length]? ∧
      (s.step setup .nextTip).1 = .tip tips[(k + 1) % tips.length]? ∧
      ((List.range tips.length).map fun i =>
          (s.after setup (.replicate (i + 1) .nextTip)).form.tips.position).Perm
        (List.range tips.length) ∧
      s.run setup (.replicate tips.length .nextTip)
        = ((tips.rotate (k + 1)).map fun tip => .tip (some tip), s) ∧
      ∀ e, e ≠ .nextTip → Step.tips? (e, (s.step setup e).1) = none →
        (s.step setup e).2.form.tips = s.form.tips := by
  intro s h tips k
  have rotation : s.form.tips = Rotation.advance^[k] (.start tips) := rotation_after setup es
  refine ⟨?none, ?shown, ?next, ?positions, ?turn, ?still⟩
  case none =>
    rw [rotation]
    exact Rotation.current?_eq_none_iff tips k
  case shown => rw [rotation, Rotation.current?_iterate_advance]
  case next =>
    show Response.tip s.form.tips.advance.current? = _
    rw [rotation, ← Function.iterate_succ_apply' Rotation.advance, Rotation.current?_iterate_advance]
  case positions =>
    simp only [after_nextTips]
    show ((List.range tips.length).map fun i =>
      (Rotation.advance^[i + 1] s.form.tips).position).Perm _
    rw [rotation, Rotation.positions_visited]
    exact List.rotate_perm _ _
  case turn =>
    have responses : (s.run setup (.replicate tips.length .nextTip)).1
        = (tips.rotate (k + 1)).map fun tip => .tip (some tip) := by
      have visited := congrArg (List.map Response.tip) (Rotation.tips_visited tips k)
      rw [List.map_map, List.map_map] at visited
      rw [responses_nextTips, rotation]
      exact visited
    have behind : s.after setup (.replicate tips.length .nextTip) = s := by
      rw [after_nextTips, rotation, Rotation.iterate_advance_size, ← rotation]
      rfl
    exact Prod.ext responses ((run_snd setup s _).trans behind)
  case still =>
    intro e other loads
    have turns : Step.turns (e, (s.step setup e).1) = false := by
      cases e with
      | nextTip => exact absurd rfl other
      | _ => rfl
    rw [(step_move setup s e).tips, Step.rotate_of_still _ loads turns]

/-- the shorter list was asked for first and comes last, and an empty one comes behind it -/
example :
    let setup : Setup := ⟨.standard, some .withTips⟩
    ((fresh setup).after setup [.loadTips, .loadTips, .loadTips,
      .answer 1 (.tips (.ok ["one", "two", "three"])), .nextTip, .nextTip,
      .answer 0 (.tips (.ok ["four", "five"])), .answer 2 (.tips (.ok [])),
      .nextTip, .nextTip, .nextTip]).form.tips.current? = some "five" := by decide

end Session

end SoqlForm
