import SoqlForm.Proofs.Session.Form
import Mathlib.Data.Nat.PSub

/-!
# Two sessions side by side

The same events are played in two sessions, one of which has a past that the other has not: its
counters and the numbers of its exchanges are ahead by a fixed lead.  What the two forms have in
common is a parameter; it has to be kept when both forms undergo the same.

* `Lead`               by how much the counters of one session are ahead;
* `Congruent`          a relation of forms that is kept by whatever the two undergo alike;
* `Mirrors`            two sessions with related forms and the same exchanges;
* `mirrors_step`       they stay so when the same event happens to both;
* `Session.Stale`      the exchanges below a number can no longer change what is related;
* `mirrors_after_since`   so what comes to these may come to the one session alone.
-/

namespace SoqlForm

/-- by how much one session is ahead of another: in the numbers of its exchanges and in the counters
of its form -/
structure Lead where
  numbers : Nat
  selections : Nat
  edits : Nat
  analyses : Nat

namespace Lead

variable (l : Lead)

/-- an exchange of the session behind, as it is in the one ahead -/
def exchange : Exchange → Exchange
  | .selection t => .selection ⟨t.entity, t.number + l.selections⟩
  | .execution => .execution
  | .analysis t => .analysis ⟨t.edits + l.edits, t.number + l.analyses, t.explanation⟩
  | .tips => .tips

/-- an event of the session behind, as it is in the one ahead -/
def event : Event → Event
  | .answer n a => .answer (n + l.numbers) a
  | .drop n => .drop (n + l.numbers)
  | e => e

def Separates (f g : Form) : Prop :=
  f.selections = g.selections + l.selections ∧ f.edits = g.edits + l.edits ∧
    f.analyses = g.analyses + l.analyses

end Lead

/-- a relation of forms that is kept when the same happens to both -/
structure Congruent (settings : Settings) (l : Lead) (R : Form → Form → Prop) : Prop where
  separates : ∀ {f g}, R f g → l.Separates f g
  obstacle : ∀ {f g}, R f g → f.executionObstacle? = g.executionObstacle?
  summary : ∀ {f g}, R f g → f.query.summary = g.query.summary
  edit : ∀ {f g}, R f g → ∀ e, R (f.edit settings e).2 (g.edit settings e).2
  nextTip : ∀ {f g}, R f g → R f.nextTip.2 g.nextTip.2
  select : ∀ {f g}, R f g → ∀ entity, R (f.select settings entity) (g.select settings entity)
  beginExecution : ∀ {f g}, R f g → R f.beginExecution g.beginExecution
  endExecution : ∀ {f g}, R f g → R f.endExecution g.endExecution
  beginAnalysis : ∀ {f g}, R f g → R f.beginAnalysis g.beginAnalysis
  receive : ∀ {f g}, R f g → ∀ entity a,
    R (f.receive settings entity a) (g.receive settings entity a)
  rows : ∀ {f g}, R f g → ∀ a, R (f.settleExecution a).2 (g.settleExecution a).2
  verdict : ∀ {f g}, R f g → ∀ v, R { f with verdict := v } { g with verdict := v }
  tips : ∀ {f g}, R f g → ∀ a, R (f.settleTips a) (g.settleTips a)

namespace Session

/-- two sessions with related forms, in which the same exchanges await an answer -/
structure Mirrors (l : Lead) (R : Form → Form → Prop) (s t : Session) : Prop where
  form : R s.form t.form
  nextNumber : s.nextNumber = t.nextNumber + l.numbers
  exchange : ∀ n, s.exchange? (n + l.numbers) = (t.exchange? n).map l.exchange

variable {setup : Setup} {l : Lead} {R R' : Form → Form → Prop} {s t s' : Session} {f g : Form}
  {e : Event} {r : Response} {n k : Nat}

theorem Mirrors.withForm (h : Mirrors l R s t) (hf : R' f g) :
    Mirrors l R' (s.withForm f) (t.withForm g) := ⟨hf, h.nextNumber, h.exchange⟩

theorem Mirrors.awaiting (h : Mirrors l R s t) {x y : Exchange} (hx : y = l.exchange x)
    (hf : R' f g) : Mirrors l R' (s.awaiting f y) (t.awaiting g x) where
  form := hf
  nextNumber := by
    show s.nextNumber + 1 = t.nextNumber + 1 + l.numbers
    have hn := h.nextNumber
    omega
  exchange m := by
    have same : m + l.numbers = s.nextNumber ↔ m = t.nextNumber := by
      have hn := h.nextNumber
      omega
    rw [exchange?_awaiting, exchange?_awaiting, h.exchange, hx, Option.map_or, if_congr same rfl rfl]
    split <;> rfl

theorem Mirrors.settled (h : Mirrors l R s t) (n : Nat) (hf : R' f g) :
    Mirrors l R' (s.settled (n + l.numbers) f) (t.settled n g) where
  form := hf
  nextNumber := h.nextNumber
  exchange m := by
    show (s.without (n + l.numbers)).exchange? (m + l.numbers)
      = ((t.without n).exchange? m).map l.exchange
    rw [exchange?_without, exchange?_without, if_congr Nat.add_right_cancel_iff rfl rfl]
    split
    · rfl
    · exact h.exchange m

/-- an exchange is over that only the session ahead had -/
theorem Mirrors.settled_left (h : Mirrors l R s t) (hn : n < l.numbers) (hf : R f t.form) :
    Mirrors l R (s.settled n f) t where
  form := hf
  nextNumber := h.nextNumber
  exchange m := by
    show (s.without n).exchange? (m + l.numbers) = _
    rw [exchange?_without, if_neg (by omega), h.exchange]

/-! ### the same events -/

theorem mirrors_select (h : Mirrors l R s t)
    (selections : s.form.selections = t.form.selections + l.selections) (name : Option String)
    (hf : ∀ entity, R' (s.form.select setup.settings entity) (t.form.select setup.settings entity)) :
    Mirrors l R' (s.step setup (.select name)).2 (t.step setup (.select name)).2 := by
  show Mirrors l R' (s.select setup name).2 (t.select setup name).2
  unfold select
  cases Form.entityNamed? name with
  | none => exact h.withForm (hf none)
  | some entity =>
    have ahead : s.form.selections + 1 = t.form.selections + 1 + l.selections := by omega
    have ticket : Exchange.selection ⟨entity, s.form.selections + 1⟩
        = l.exchange (.selection ⟨entity, t.form.selections + 1⟩) := by
      rw [ahead]
      rfl
    exact h.awaiting ticket (hf (some entity))

variable (hR : Congruent setup.settings l R)
include hR

theorem mirrors_execute (h : Mirrors l R s t) : Mirrors l R s.execute.2 t.execute.2 := by
  unfold execute
  rw [hR.obstacle h.form]
  cases t.form.executionObstacle? with
  | none => exact h.awaiting rfl (hR.beginExecution h.form)
  | some x => exact h

theorem mirrors_analyse (h : Mirrors l R s t) :
    Mirrors l R (s.analyse setup).2 (t.analyse setup).2 := by
  unfold analyse
  cases setup.scorer with
  | none => exact h
  | some scorer =>
    obtain ⟨_, edits, analyses⟩ := hR.separates (hR.beginAnalysis h.form)
    have ticket : Exchange.analysis s.form.beginAnalysis.analysisTicket
        = l.exchange (.analysis t.form.beginAnalysis.analysisTicket) := by
      rw [Form.analysisTicket, edits, analyses, hR.summary (hR.beginAnalysis h.form)]
      rfl
    exact h.awaiting ticket (hR.beginAnalysis h.form)

omit hR in
theorem mirrors_loadTips (h : Mirrors l R s t) :
    Mirrors l R (s.loadTips setup).2 (t.loadTips setup).2 := by
  unfold loadTips
  split
  · exact h.awaiting rfl h.form
  · exact h

/-- an answer is passed over on both sides, or on none -/
theorem congruent_settleSelection (h : R f g) (ticket : Form.SelectionTicket)
    (a : Except Failure Entity) :
    R (f.settleSelection setup.settings ⟨ticket.entity, ticket.number + l.selections⟩ a).2
      (g.settleSelection setup.settings ticket a).2 := by
  obtain ⟨ahead, _, _⟩ := hR.separates h
  by_cases latest : g.selections = ticket.number
  · have latest' : f.selections = ticket.number + l.selections := by omega
    rw [Form.settleSelection_of_latest latest]
    have received := hR.receive h ticket.entity a
    rw [← Form.settleSelection_of_latest (t := ⟨ticket.entity, ticket.number + l.selections⟩)
      latest' a] at received
    exact received
  · have late : f.selections ≠ ticket.number + l.selections := by omega
    unfold Form.settleSelection
    rw [if_pos late, if_pos latest]
    exact h

theorem congruent_settleAnalysis (h : R f g) (ticket : Form.AnalysisTicket)
    (a : Except Failure Appraisal) :
    R (f.settleAnalysis ⟨ticket.edits + l.edits, ticket.number + l.analyses, ticket.explanation⟩ a).2
      (g.settleAnalysis ticket a).2 := by
  obtain ⟨_, edits, analyses⟩ := hR.separates h
  by_cases late : g.edits ≠ ticket.edits ∨ g.analyses ≠ ticket.number
  · have late' : f.edits ≠ ticket.edits + l.edits ∨ f.analyses ≠ ticket.number + l.analyses := by
      omega
    unfold Form.settleAnalysis
    rw [if_pos late, if_pos late']
    exact h
  · have taken : ¬ (f.edits ≠ ticket.edits + l.edits ∨ f.analyses ≠ ticket.number + l.analyses) := by
      omega
    unfold Form.settleAnalysis
    rw [if_neg late, if_neg taken]
    cases a <;> exact hR.verdict h _

/-- an answer is fit for an exchange on both sides, or on none -/
theorem congruent_settle (h : R f g) (x : Exchange) (a : Answer) :
    Option.Rel (fun p q => R p.2 q.2) (settle setup f (l.exchange x) a) (settle setup g x a) := by
  cases x with
  | selection ticket =>
    cases a with
    | fields a => exact .some (congruent_settleSelection hR h ticket a)
    | _ => exact .none
  | execution =>
    cases a with
    | rows a => exact .some (hR.rows h a)
    | _ => exact .none
  | analysis ticket =>
    cases a with
    | score a => exact .some (congruent_settleAnalysis hR h ticket a)
    | _ => exact .none
  | tips =>
    cases a with
    | tips a => exact .some (hR.tips h a)
    | _ => exact .none

theorem mirrors_answer (h : Mirrors l R s t) (n : Nat) (a : Answer) :
    Mirrors l R (s.answer setup (n + l.numbers) a).2 (t.answer setup n a).2 := by
  unfold answer
  rw [h.exchange]
  cases t.exchange? n with
  | none => exact h
  | some x =>
    -- either both sides take the answer or it is unfit for both
    have rel := congruent_settle hR h.form x a
    rw [Option.map_some, Option.bind_some, Option.bind_some]
    generalize settle setup s.form (l.exchange x) a = p, settle setup t.form x a = q at rel ⊢
    cases rel with
    | none => exact h
    | some related => exact h.settled n related

theorem mirrors_drop (h : Mirrors l R s t) (n : Nat) :
    Mirrors l R (s.drop (n + l.numbers)).2 (t.drop n).2 := by
  unfold drop
  rw [h.exchange]
  cases t.exchange? n with
  | none => exact h
  | some x =>
    cases x with
    | execution => exact h.settled n (hR.endExecution h.form)
    | _ => exact h.settled n h.form

/-- **Two sessions side by side stay so when the same event happens to both.** -/
theorem mirrors_step (h : Mirrors l R s t) (e : Event) :
    Mirrors l R (s.step setup (l.event e)).2 (t.step setup e).2 := by
  cases e with
  | edit e => exact h.withForm (hR.edit h.form e)
  | nextTip => exact h.withForm (hR.nextTip h.form)
  | select name =>
    exact mirrors_select h (hR.separates h.form).1 name (hR.select h.form)
  | execute => exact mirrors_execute hR h
  | analyse => exact mirrors_analyse hR h
  | loadTips => exact mirrors_loadTips h
  | answer n a => exact mirrors_answer hR h n a
  | drop n => exact mirrors_drop hR h n

omit hR

/-! ### exchanges that only one side has -/

/-- what an exchange was opened for has been overtaken, or does not touch what is shown of a query -/
def Outdated (f : Form) : Exchange → Prop
  | .selection t => t.number < f.selections
  | .execution => False
  | .analysis t => t.edits < f.edits
  | .tips => True

/-- the exchanges with a number below `k` are outdated -/
def Stale (k : Nat) (s : Session) : Prop :=
  ∀ n x, n < k → s.exchange? n = some x → Outdated s.form x

theorem Move.edits_le (m : Move setup s e r s') : s.form.edits ≤ s'.form.edits := by
  by_cases hw : s.Writes e r
  · obtain ⟨f, hf, he⟩ := m.written hw
    rw [hf, Form.edits_refresh, he]
    exact Nat.le_succ _
  · exact Nat.le_of_eq (congrArg Sheet.edits (m.sheet_eq hw)).symm

theorem Move.outdated (m : Move setup s e r s') {x : Exchange} (h : Outdated s.form x) :
    Outdated s'.form x := by
  cases x with
  | selection t =>
    have hs := m.selections
    show t.number < s'.form.selections
    have old : t.number < s.form.selections := h
    omega
  | execution => exact h
  | analysis t =>
    have old : t.edits < s.form.edits := h
    exact Nat.lt_of_lt_of_le old m.edits_le
  | tips => exact h

theorem Move.stale (m : Move setup s e r s') (hk : k ≤ s.nextNumber) (h : s.Stale k) :
    s'.Stale k := by
  intro n x hn hx
  rcases m.exchange?_of_move hx with old | ⟨new, _⟩
  · exact m.outdated (h n x hn old)
  · omega

end Session

/-- an event as it is in a session without the exchanges below a number; none, if it is about one
of these -/
def Event.since? (k : Nat) : Event → Option Event
  | .answer n a => (n.psub k).map (.answer · a)
  | .drop n => (n.psub k).map .drop
  | e => some e

theorem Lead.event_of_since? {l : Lead} {e e' : Event} (h : e.since? l.numbers = some e') :
    l.event e' = e := by
  cases e with
  | answer n a =>
    obtain ⟨m, hm, rfl⟩ := Option.map_eq_some_iff.mp h
    rw [← Nat.psub_eq_some.mp hm]
    rfl
  | drop n =>
    obtain ⟨m, hm, rfl⟩ := Option.map_eq_some_iff.mp h
    rw [← Nat.psub_eq_some.mp hm]
    rfl
  | _ => cases h; rfl

namespace Session

variable {setup : Setup} {l : Lead} {R : Form → Form → Prop} {s t s' : Session} {e : Event}
  {r : Response} {k : Nat}

/-- what comes to an outdated exchange ends it, and changes the tips at most -/
theorem Move.stale_cases (m : Move setup s e r s') (h : s.Stale k) (he : e.since? k = none) :
    s' = s ∨ ∃ n f, n < k ∧ s' = s.settled n f ∧ (f = s.form ∨ ∃ a, f = s.form.settleTips a) := by
  have below : ∀ {n : Nat} {event : Nat → Event}, (n.psub k).map event = none → n < k :=
    fun h => Nat.psub_eq_none.mp (Option.map_eq_none_iff.mp h)
  cases m with
  | superseded _ _ => exact .inr ⟨_, _, below he, rfl, .inl rfl⟩
  -- an answer that still counts contradicts what has overtaken its exchange
  | loaded asked latest =>
    have old : _ < _ := h _ _ (below he) asked
    omega
  | unloaded asked latest =>
    have old : _ < _ := h _ _ (below he) asked
    omega
  | executed asked => exact (h _ _ (below he) asked).elim
  | failed asked => exact (h _ _ (below he) asked).elim
  | overtaken _ _ => exact .inr ⟨_, _, below he, rfl, .inl rfl⟩
  | appraised asked unedited _ =>
    have old : _ < _ := h _ _ (below he) asked
    omega
  | tipsLoaded _ => exact .inr ⟨_, _, below he, rfl, .inr ⟨_, rfl⟩⟩
  | unanswered _ => exact .inl rfl
  | stopped asked => exact (h _ _ (below he) asked).elim
  | forgotten _ _ => exact .inr ⟨_, _, below he, rfl, .inl rfl⟩
  | undropped _ => exact .inl rfl
  | _ => cases he

/-- **Two sessions side by side stay so, whatever comes to outdated exchanges of the first.** -/
theorem mirrors_after_since (hR : Congruent setup.settings l R)
    (tips : ∀ {f g}, R f g → ∀ a, R (f.settleTips a) g) (h : Mirrors l R s t)
    (stale : s.Stale l.numbers) (es : List Event) :
    Mirrors l R (s.after setup es) (t.after setup (es.filterMap (·.since? l.numbers))) := by
  induction es generalizing s t with
  | nil => exact h
  | cons e es ih =>
    have m := step_move setup s e
    have still : (s.step setup e).2.Stale l.numbers :=
      m.stale (by rw [h.nextNumber]; exact Nat.le_add_left _ _) stale
    cases he : e.since? l.numbers with
    | some e' =>
      rw [List.filterMap_cons_some he]
      have both := mirrors_step hR h e'
      rw [Lead.event_of_since? he] at both
      exact ih both still
    | none =>
      -- the second session stands still, and the first ends an exchange that the second never had
      rw [List.filterMap_cons_none he]
      refine ih ?_ still
      show Mirrors l R (s.step setup e).2 t
      rcases m.stale_cases stale he with same | ⟨n, f, hn, hs, same | ⟨a, hf⟩⟩
      · rw [same]
        exact h
      · rw [hs, same]
        exact h.settled_left hn h.form
      · rw [hs, hf]
        exact h.settled_left hn (tips h.form a)

end Session

end SoqlForm
