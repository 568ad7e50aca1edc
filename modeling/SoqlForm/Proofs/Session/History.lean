import SoqlForm.Proofs.Session.Move
import Mathlib.Data.List.Induction

/-!
# The history of a run

The history of a run is the list of its events, each with the response to it: all that can be seen
of a run from outside.  What the counters of a form and the tickets of its exchanges stand for is
said here in terms of the history.

* `Session.history`   the history of a run;
* `latestFetch?`      the number under which the last selection has asked for the fields;
* `rewritings`        how many steps write the text of the query anew;
* `Linked`            the tickets of the selections that await their fields agree with the history;
* `linked_after`      this holds on every run;
* `edits_after`, `analyses_after`, `selections_after`   the counters of a form count steps;
* `exchange?_still`   an exchange that still awaits its answer is the one that was opened.
-/

namespace SoqlForm

/-- one step of a run: an event with the response to it -/
abbrev Step := Event × Response

namespace Step

def selects : Step → Bool
  | (.select _, _) => true
  | _ => false

def asksAppraisal : Step → Bool
  | (.analyse, .awaits _ _) => true
  | _ => false

/-- the number under which the last selection has asked for the fields, given the number before
the step -/
def fetchAfter (fetch? : Option Nat) : Step → Option Nat
  | (.select _, .awaits n _) => some n
  | (.select _, _) => none
  | _ => fetch?

/-- whether the text of the query is written anew in a step: an edit is made, a selection is begun,
or the fields come that the last selection has asked for -/
def rewrites (fetch? : Option Nat) : Step → Bool
  | (.edit _, .edited (.ok _)) => true
  | (.select _, _) => true
  | (.answer n _, .selected _) => fetch? == some n
  | _ => false

theorem fetchAfter_of_not_selects {st : Step} (h : st.selects = false) (fetch? : Option Nat) :
    st.fetchAfter fetch? = fetch? := by
  obtain ⟨e, r⟩ := st
  cases e with
  | select _ => cases h
  | _ => rfl

end Step

/-- the number under which the last selection of a history has asked for the fields, if it did -/
def latestFetch? (h : List Step) : Option Nat := h.foldl Step.fetchAfter none

theorem latestFetch?_concat (h : List Step) (st : Step) :
    latestFetch? (h ++ [st]) = st.fetchAfter (latestFetch? h) := by
  rw [latestFetch?, List.foldl_append]
  rfl

/-- how many steps write the text of the query anew, given the number under which the last
selection before them has asked for the fields -/
def rewritings (fetch? : Option Nat) : List Step → Nat
  | [] => 0
  | st :: sts => (st.rewrites fetch?).toNat + rewritings (st.fetchAfter fetch?) sts

namespace Session

variable (setup : Setup)

def history (s : Session) : List Event → List Step
  | [] => []
  | e :: es => (e, (s.step setup e).1) :: history (s.step setup e).2 es

theorem history_append (s : Session) (a b : List Event) :
    s.history setup (a ++ b) = s.history setup a ++ (s.after setup a).history setup b := by
  induction a generalizing s with
  | nil => rfl
  | cons e a ih =>
    show (e, _) :: (s.step setup e).2.history setup (a ++ b) = _
    rw [ih]
    rfl

theorem map_fst_history (s : Session) (es : List Event) :
    (s.history setup es).map Prod.fst = es := by
  induction es generalizing s with
  | nil => rfl
  | cons e es ih => exact congrArg _ (ih _)

theorem history_concat (s : Session) (es : List Event) (e : Event) :
    s.history setup (es ++ [e])
      = s.history setup es ++ [(e, ((s.after setup es).step setup e).1)] :=
  history_append setup s es [e]

theorem after_concat (s : Session) (es : List Event) (e : Event) :
    s.after setup (es ++ [e]) = ((s.after setup es).step setup e).2 :=
  after_append setup s es [e]

theorem map_snd_history (s : Session) (es : List Event) :
    (s.history setup es).map Prod.snd = (s.run setup es).1 := by
  induction es generalizing s with
  | nil => rfl
  | cons e es ih => exact congrArg _ (ih _)

variable {setup : Setup} {s s' : Session} {e : Event} {r : Response} {n : Nat}
  {fetch? : Option Nat}

/-! ### counters -/

theorem Move.selections (m : Move setup s e r s') :
    s'.form.selections = s.form.selections + (Step.selects (e, r)).toNat := by
  cases m with
  | edited made =>
    have kept := congrArg Form.selections (Edit.apply_frame made)
    exact kept
  | tipsLoaded _ => exact congrArg Sheet.selections (Form.sheet_settleTips _ _)
  | _ => rfl

theorem Move.analyses (m : Move setup s e r s') :
    s'.form.analyses = s.form.analyses + (Step.asksAppraisal (e, r)).toNat := by
  cases m with
  | edited made =>
    have kept := congrArg Form.analyses (Edit.apply_frame made)
    exact kept
  | tipsLoaded _ =>
    rw [Form.settleTips_frame]
    rfl
  | _ => rfl

/-! ### tickets -/

/-- the tickets of the selections that await their fields agree with the number under which the
last selection has asked for its own -/
structure Linked (fetch? : Option Nat) (s : Session) : Prop where
  numbered : s.Numbered
  fetch_lt : ∀ {n}, fetch? = some n → n < s.nextNumber
  number_le : ∀ {n t}, s.exchange? n = some (.selection t) → t.number ≤ s.form.selections
  latest_iff : ∀ {n t}, s.exchange? n = some (.selection t) →
    (s.form.selections = t.number ↔ fetch? = some n)

theorem linked_fresh : Linked none (fresh setup) where
  numbered _ _ := rfl
  fetch_lt := nofun
  number_le := nofun
  latest_iff := nofun

/-- the number of the last selection is the old one, or the selection is made in this move -/
theorem Move.fetch_cases (m : Move setup s e r s')
    (hf : Step.fetchAfter fetch? (e, r) = some n) :
    Step.selects (e, r) = false ∧ fetch? = some n ∨
      Step.selects (e, r) = true ∧ n = s.nextNumber ∧ n < s'.nextNumber := by
  cases m with
  | deselected _ => cases hf
  | selecting _ => cases hf; exact .inr ⟨rfl, rfl, Nat.lt_succ_self _⟩
  | _ => exact .inl ⟨rfl, hf⟩

theorem Move.linked (m : Move setup s e r s') (h : Linked fetch? s) :
    Linked (Step.fetchAfter fetch? (e, r)) s' := by
  have hsel := m.selections
  refine ⟨m.numbered h.numbered, ?_, ?_, ?_⟩
  · intro n hf
    rcases m.fetch_cases hf with ⟨_, hf⟩ | ⟨_, _, hlt⟩
    · exact Nat.lt_of_lt_of_le (h.fetch_lt hf) m.nextNumber_le
    · exact hlt
  · intro n t hx
    rcases m.selection_cases hx with hx | ⟨_, _, _, ht, _⟩
    · have hle := h.number_le hx
      omega
    · exact Nat.le_of_eq ht
  · intro n t hx
    rcases m.selection_cases hx with hx | ⟨_, rfl, rfl, ht, _⟩
    · cases hs : Step.selects (e, r) with
      | false =>
        rw [hs, Bool.toNat_false, Nat.add_zero] at hsel
        rw [Step.fetchAfter_of_not_selects hs, hsel]
        exact h.latest_iff hx
      | true =>
        -- an older ticket has neither the number of this selection nor that of its exchange
        rw [hs, Bool.toNat_true] at hsel
        have hle := h.number_le hx
        have hlt := h.numbered.lt hx
        refine iff_of_false (by omega) ?_
        intro hf
        rcases m.fetch_cases hf with ⟨hs', _⟩ | ⟨_, hn, _⟩
        · rw [hs] at hs'
          cases hs'
        · omega
    · exact iff_of_true ht.symm rfl

/-- on linked sessions the moves that write the text are those that the history tells -/
theorem Move.writes_iff (m : Move setup s e r s') (h : Linked fetch? s) :
    s.Writes e r ↔ Step.rewrites fetch? (e, r) = true := by
  have answered : ∀ {n t a x}, s.exchange? n = some (.selection t) →
      (s.Writes (.answer n a) (.selected x) ↔
        Step.rewrites fetch? (.answer n a, .selected x) = true) := by
    intro n t a x asked
    show (∃ t, _) ↔ (fetch? == some n) = true
    rw [beq_iff_eq, ← h.latest_iff asked]
    constructor
    · rintro ⟨t', asked', latest⟩
      cases asked.symm.trans asked'
      exact latest
    · intro latest
      exact ⟨t, asked, latest⟩
  cases m with
  | edited _ => exact iff_of_true trivial rfl
  | deselected _ => exact iff_of_true trivial rfl
  | selecting _ => exact iff_of_true trivial rfl
  | superseded asked _ => exact answered asked
  | loaded asked _ => exact answered asked
  | unloaded asked _ => exact answered asked
  | _ => exact iff_of_false id Bool.false_ne_true

theorem Move.sheet_of_not_rewrites (m : Move setup s e r s') (h : Linked fetch? s)
    (hw : Step.rewrites fetch? (e, r) = false) : s'.form.sheet = s.form.sheet := by
  apply m.sheet_eq
  rw [m.writes_iff h, hw]
  exact Bool.false_ne_true

theorem Move.edits (m : Move setup s e r s') (h : Linked fetch? s) :
    s'.form.edits = s.form.edits + (Step.rewrites fetch? (e, r)).toNat := by
  cases hw : Step.rewrites fetch? (e, r) with
  | true =>
    obtain ⟨f, hf, he⟩ := m.written ((m.writes_iff h).mpr hw)
    rw [hf, Form.edits_refresh, he]
    rfl
  | false => exact congrArg Sheet.edits (m.sheet_of_not_rewrites h hw)

/-! ### along a run -/

theorem linked_after_of_linked (h : Linked fetch? s) (es : List Event) :
    Linked ((s.history setup es).foldl Step.fetchAfter fetch?) (s.after setup es) := by
  induction es generalizing s fetch? with
  | nil => exact h
  | cons e es ih => exact ih ((step_move setup s e).linked h)

/-- **On every run the tickets agree with the history.** -/
theorem linked_after (setup : Setup) (es : List Event) :
    Linked (latestFetch? ((fresh setup).history setup es)) ((fresh setup).after setup es) :=
  linked_after_of_linked linked_fresh es

/-- what holds at the start, and is kept by every move of a session whose tickets agree with the
history, holds on every run -/
theorem history_induction (setup : Setup) {P : List Step → Session → Prop}
    (start : P [] (fresh setup))
    (move : ∀ {h s e r s'}, Linked (latestFetch? h) s → P h s → Move setup s e r s' →
      P (h ++ [(e, r)]) s')
    (es : List Event) : P ((fresh setup).history setup es) ((fresh setup).after setup es) := by
  induction es using List.reverseRecOn with
  | nil => exact start
  | append_singleton es e ih =>
    rw [history_concat, after_concat]
    exact move (linked_after setup es) ih (step_move setup _ e)

theorem edits_after (h : Linked fetch? s) (es : List Event) :
    (s.after setup es).form.edits = s.form.edits + rewritings fetch? (s.history setup es) := by
  induction es generalizing s fetch? with
  | nil => rfl
  | cons e es ih =>
    have m := step_move setup s e
    rw [after_cons, ih (m.linked h), m.edits h, Nat.add_assoc]
    rfl

/-- a counter that goes up by one in the moves of a kind, and stays in any other, counts them -/
theorem counter_after {counter : Form → Nat} {counts : Step → Bool}
    (move : ∀ {s e r s'}, Move setup s e r s' →
      counter s'.form = counter s.form + (counts (e, r)).toNat)
    (s : Session) (es : List Event) :
    counter (s.after setup es).form = counter s.form + (s.history setup es).countP counts := by
  induction es generalizing s with
  | nil => rfl
  | cons e es ih =>
    rw [after_cons, ih, move (step_move setup s e), history, List.countP_cons, Nat.add_assoc,
      Nat.add_comm (Bool.toNat _)]
    cases counts (e, (s.step setup e).1) <;> rfl

theorem selections_after (s : Session) (es : List Event) :
    (s.after setup es).form.selections
      = s.form.selections + (s.history setup es).countP Step.selects :=
  counter_after Move.selections s es

theorem exchange?_after (hn : n < s.nextNumber) {es : List Event} {x : Exchange}
    (h : (s.after setup es).exchange? n = some x) : s.exchange? n = some x := by
  induction es generalizing s with
  | nil => exact h
  | cons e es ih =>
    have m := step_move setup s e
    rcases m.exchange?_of_move (ih (Nat.lt_of_lt_of_le hn m.nextNumber_le) h) with hx | ⟨hx, _⟩
    · exact hx
    · omega

/-- an exchange that still awaits its answer at the end of a run is the one that its question
opened -/
theorem exchange?_still {es : List Event} {q : Question} (numbered : s.Numbered)
    (asked : (s.step setup e).1 = .awaits n q)
    (open_ : (s.after setup (e :: es)).exchange? n ≠ none) :
    (s.after setup (e :: es)).exchange? n = some (s.exchangeFor q) := by
  have m := step_move setup s e
  rw [asked] at m
  have begun := m.exchange?_awaits numbered
  obtain ⟨hn, hs⟩ := m.awaits
  have hlt : n < (s.step setup e).2.nextNumber := by
    rw [hs, hn]
    exact Nat.lt_succ_self _
  obtain ⟨x, hx⟩ := Option.ne_none_iff_exists'.mp open_
  have old := exchange?_after hlt hx
  rw [hx, ← old, begun]

end Session

end SoqlForm
