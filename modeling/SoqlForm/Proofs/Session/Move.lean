import SoqlForm.Session.Run

/-!
# The moves of a session

`Session.step` as a relation: one rule for each way in which an event can turn out, with the
condition under which it turns out so, the response, and the session behind it.

* `Session.Move`      the rules;
* `step_move`         every step is a move;
* `Form.sheet`        the part of a form that goes with the number of its last writing;
* `Session.Writes`    the moves that write the text of the query anew;
* `Move.written`, `Move.sheet_eq`   such a move refreshes the form, any other keeps the sheet;
* `Move.awaits`, `Move.exchange?_of_move`   a move asks at most one question, under the next
                      number, and otherwise only ends exchanges.

Facts about single steps are read off the rules, so that nothing behind this module unfolds
`Session.step`.
-/

namespace SoqlForm

namespace Session

def awaiting (s : Session) (form : Form) (exchange : Exchange) : Session :=
  ⟨form, s.awaited ++ [(s.nextNumber, exchange)], s.nextNumber + 1⟩

def settled (s : Session) (number : Nat) (form : Form) : Session :=
  (s.without number).withForm form

section
variable (setup : Setup) (s : Session)

inductive Move : Event → Response → Session → Prop where
  | edited {e : Edit} {answer : Edit.Answer} {form : Form}
      (made : e.apply s.form = .ok (answer, form)) :
      Move (.edit e) (.edited (.ok answer)) (s.withForm (form.refresh setup.settings))
  | refused {e : Edit} {failure : Failure} (failed : e.apply s.form = .error failure) :
      Move (.edit e) (.edited (.error failure)) s
  | turned : Move .nextTip (.tip s.form.nextTip.1) (s.withForm s.form.nextTip.2)
  /-- no entity is selected any more -/
  | deselected {name : Option String} (none_named : Form.entityNamed? name = none) :
      Move (.select name) (.selected (.ok ())) (s.withForm (s.form.select setup.settings none))
  /-- an entity is selected, and its fields are asked for -/
  | selecting {name : Option String} {entity : String}
      (named : Form.entityNamed? name = some entity) :
      Move (.select name) (.awaits s.nextNumber (.fieldsOf entity))
        (s.awaiting (s.form.select setup.settings (some entity))
          (.selection ⟨entity, s.form.selections + 1⟩))
  | hindered {failure : Failure} (obstacle : s.form.executionObstacle? = some failure) :
      Move .execute (.executed (.error failure)) s
  | executing (free : s.form.executionObstacle? = none) :
      Move .execute (.awaits s.nextNumber (.rowsOf s.form.text))
        (s.awaiting s.form.beginExecution .execution)
  /-- without a scoring service the verdict shown is the answer -/
  | shown (unscored : setup.scorer = none) :
      Move .analyse (.analysed (some s.form.verdict)) s
  | analysing (scored : setup.scorer ≠ none) :
      Move .analyse (.awaits s.nextNumber (.scoreOf s.form.text))
        (s.awaiting s.form.beginAnalysis
          (.analysis ⟨s.form.edits, s.form.analyses + 1, s.form.query.summary⟩))
  | untipped (tipless : setup.scorer ≠ some .withTips) : Move .loadTips .tipsLoaded s
  | loadingTips (tipped : setup.scorer = some .withTips) :
      Move .loadTips (.awaits s.nextNumber .tips) (s.awaiting s.form .tips)
  /-- the fields of an entity come after another selection -/
  | superseded {n : Nat} {t : Form.SelectionTicket} {a : Except Failure Entity}
      (asked : s.exchange? n = some (.selection t)) (late : s.form.selections ≠ t.number) :
      Move (.answer n (.fields a)) (.selected (.ok ())) (s.without n)
  | loaded {n : Nat} {t : Form.SelectionTicket} {m : Entity}
      (asked : s.exchange? n = some (.selection t)) (latest : s.form.selections = t.number) :
      Move (.answer n (.fields (.ok m))) (.selected (.ok ()))
        (s.settled n
          (({ s.form with isPending := false }.load t.entity m).refresh setup.settings))
  | unloaded {n : Nat} {t : Form.SelectionTicket} {x : Failure}
      (asked : s.exchange? n = some (.selection t)) (latest : s.form.selections = t.number) :
      Move (.answer n (.fields (.error x))) (.selected (.error x.asMetadata))
        (s.settled n ({ s.form with isPending := false }.refresh setup.settings))
  | executed {n : Nat} {rows : ResultSet} (asked : s.exchange? n = some .execution) :
      Move (.answer n (.rows (.ok rows))) (.executed (.ok rows))
        (s.settled n
          { s.form with results := rows, columns := rows.columns s.form.catalog }.endExecution)
  | failed {n : Nat} {x : Failure} (asked : s.exchange? n = some .execution) :
      Move (.answer n (.rows (.error x))) (.executed (.error x.asExecution))
        (s.settled n s.form.endExecution)
  /-- an appraisal comes after an edit or another analysis -/
  | overtaken {n : Nat} {t : Form.AnalysisTicket} {a : Except Failure Appraisal}
      (asked : s.exchange? n = some (.analysis t))
      (late : s.form.edits ≠ t.edits ∨ s.form.analyses ≠ t.number) :
      Move (.answer n (.score a)) (.analysed none) (s.without n)
  | appraised {n : Nat} {t : Form.AnalysisTicket} {a : Except Failure Appraisal}
      (asked : s.exchange? n = some (.analysis t)) (unedited : s.form.edits = t.edits)
      (latest : s.form.analyses = t.number) :
      Move (.answer n (.score a)) (.analysed (some (t.verdict a)))
        (s.settled n { s.form with verdict := t.verdict a })
  | tipsLoaded {n : Nat} {a : Except Failure (List String)} (asked : s.exchange? n = some .tips) :
      Move (.answer n (.tips a)) .tipsLoaded (s.settled n (s.form.settleTips a))
  | unanswered {n : Nat} {a : Answer}
      (unfit : (s.exchange? n).bind (settle setup s.form · a) = none) :
      Move (.answer n a) .unexpected s
  | stopped {n : Nat} (asked : s.exchange? n = some .execution) :
      Move (.drop n) .dropped (s.settled n s.form.endExecution)
  | forgotten {n : Nat} {x : Exchange} (asked : s.exchange? n = some x) (other : x ≠ .execution) :
      Move (.drop n) .dropped (s.without n)
  | undropped {n : Nat} (unknown : s.exchange? n = none) : Move (.drop n) .unexpected s

end

variable {setup : Setup} {s s' : Session} {e : Event} {r : Response} {n : Nat}

/-! ### every step is a move -/

theorem move_edit (e : Edit) :
    Move setup s (.edit e) (s.step setup (.edit e)).1 (s.step setup (.edit e)).2 := by
  cases h : e.apply s.form with
  | ok made =>
    obtain ⟨answer, form⟩ := made
    simp only [step, Form.edit, h]
    exact .edited h
  | error failure =>
    simp only [step, Form.edit, h]
    exact .refused h

theorem move_select (name : Option String) :
    Move setup s (.select name) (s.select setup name).1 (s.select setup name).2 := by
  cases h : Form.entityNamed? name with
  | none =>
    have hs : s.select setup name
        = (.selected (.ok ()), s.withForm (s.form.select setup.settings none)) := by
      rw [select, h]; rfl
    rw [hs]
    exact .deselected h
  | some entity =>
    have hs : s.select setup name = (.awaits s.nextNumber (.fieldsOf entity),
        s.awaiting (s.form.select setup.settings (some entity))
          (.selection ⟨entity, s.form.selections + 1⟩)) := by
      rw [select, h]; rfl
    rw [hs]
    exact .selecting h

theorem move_execute : Move setup s .execute s.execute.1 s.execute.2 := by
  unfold execute
  cases h : s.form.executionObstacle? with
  | none => exact .executing h
  | some failure => exact .hindered h

theorem move_analyse : Move setup s .analyse (s.analyse setup).1 (s.analyse setup).2 := by
  unfold analyse
  cases h : setup.scorer with
  | none => exact .shown h
  | some scorer => exact .analysing (by rw [h]; nofun)

theorem move_loadTips : Move setup s .loadTips (s.loadTips setup).1 (s.loadTips setup).2 := by
  unfold loadTips
  cases h : setup.scorer with
  | none => exact .untipped (by rw [h]; nofun)
  | some scorer =>
    cases scorer with
    | plain => exact .untipped (by rw [h]; nofun)
    | withTips => exact .loadingTips h

theorem move_fields {t : Form.SelectionTicket} (asked : s.exchange? n = some (.selection t))
    (a : Except Failure Entity) :
    Move setup s (.answer n (.fields a)) (.selected (s.form.settleSelection setup.settings t a).1)
      (s.settled n (s.form.settleSelection setup.settings t a).2) := by
  unfold Form.settleSelection
  split
  · next late => exact .superseded asked late
  · next latest =>
    have latest' := Decidable.not_not.mp latest
    cases a with
    | ok m => exact .loaded asked latest'
    | error x => exact .unloaded asked latest'

theorem move_rows (asked : s.exchange? n = some .execution) (a : Except Failure ResultSet) :
    Move setup s (.answer n (.rows a)) (.executed (s.form.settleExecution a).1)
      (s.settled n (s.form.settleExecution a).2) := by
  cases a with
  | ok rows => exact .executed asked
  | error x => exact .failed asked

theorem move_score {t : Form.AnalysisTicket} (asked : s.exchange? n = some (.analysis t))
    (a : Except Failure Appraisal) :
    Move setup s (.answer n (.score a)) (.analysed (s.form.settleAnalysis t a).1)
      (s.settled n (s.form.settleAnalysis t a).2) := by
  unfold Form.settleAnalysis
  split
  · next late => exact .overtaken asked late
  · next fits =>
    obtain ⟨unedited, latest⟩ := not_or.mp fits
    exact .appraised asked (Decidable.not_not.mp unedited) (Decidable.not_not.mp latest)

theorem move_answer (n : Nat) (a : Answer) :
    Move setup s (.answer n a) (s.answer setup n a).1 (s.answer setup n a).2 := by
  unfold answer
  split
  · next response form h =>
    obtain ⟨x, asked, h⟩ := Option.bind_eq_some_iff.mp h
    cases x with
    | selection t =>
      cases a with
      | fields a => cases h; exact move_fields asked a
      | rows _ => cases h
      | score _ => cases h
      | tips _ => cases h
    | execution =>
      cases a with
      | fields _ => cases h
      | rows a => cases h; exact move_rows asked a
      | score _ => cases h
      | tips _ => cases h
    | analysis t =>
      cases a with
      | fields _ => cases h
      | rows _ => cases h
      | score a => cases h; exact move_score asked a
      | tips _ => cases h
    | tips =>
      cases a with
      | fields _ => cases h
      | rows _ => cases h
      | score _ => cases h
      | tips a => cases h; exact .tipsLoaded asked
  · next h => exact .unanswered h

theorem move_drop (n : Nat) : Move setup s (.drop n) (s.drop n).1 (s.drop n).2 := by
  unfold drop
  split
  · next asked => exact .stopped asked
  · next x other asked => exact .forgotten asked other
  · next unknown => exact .undropped unknown

/-- **Every step is a move.** -/
theorem step_move (setup : Setup) (s : Session) (e : Event) :
    Move setup s e (s.step setup e).1 (s.step setup e).2 := by
  cases e with
  | edit e => exact move_edit e
  | nextTip => exact .turned
  | select name => exact move_select name
  | execute => exact move_execute
  | analyse => exact move_analyse
  | loadTips => exact move_loadTips
  | answer n a => exact move_answer n a
  | drop n => exact move_drop n

end Session

/-! ### what an edit leaves alone -/

/-- an edit sets the choices of a form and nothing else -/
theorem Edit.apply_frame {f g : Form} {e : Edit} {answer : Edit.Answer}
    (made : e.apply f = .ok (answer, g)) :
    g = { f with
      fields := g.fields
      filter := g.filter
      orderBy := g.orderBy
      direction := g.direction
      limit := g.limit
      offset := g.offset } := by
  cases e with
  | removeCondition position =>
    rw [Edit.apply] at made
    cases h : f.filter.remove position with
    | ok removed => rw [h] at made; cases made; rfl
    | error _ => rw [h] at made; cases made
  | updateCondition position change =>
    rw [Edit.apply] at made
    cases h : f.filter.update f.catalog position change with
    | ok filter => rw [h] at made; cases made; rfl
    | error _ => rw [h] at made; cases made
  | _ => cases made; rfl

/-! ### the sheet of a form -/

/-- what a form shows of the query that is built, and the number of the last writing of its text -/
structure Sheet where
  query : Query
  filter : Filter
  catalog : Catalog
  description : Option String
  isPending : Bool
  selections : Nat
  text : String
  edits : Nat

def Form.sheet (f : Form) : Sheet :=
  ⟨f.query, f.filter, f.catalog, f.description, f.isPending, f.selections, f.text, f.edits⟩

/-- tips that come set the tips of a form and nothing else -/
theorem Form.settleTips_frame (f : Form) (a : Except Failure (List String)) :
    f.settleTips a = { f with tips := (f.settleTips a).tips } := by
  rcases a with _ | _ | _ <;> rfl

theorem Form.sheet_settleTips (f : Form) (a : Except Failure (List String)) :
    (f.settleTips a).sheet = f.sheet := by
  rw [settleTips_frame]
  rfl

namespace Session

/-- whether a response to an event comes with the text written anew: an edit that is made, any
selection, and the fields of the entity selected last -/
def Writes (s : Session) : Event → Response → Prop
  | .edit _, .edited (.ok _) => True
  | .select _, _ => True
  | .answer n _, .selected _ =>
    ∃ t, s.exchange? n = some (.selection t) ∧ s.form.selections = t.number
  | _, _ => False

variable {setup : Setup} {s s' : Session} {e : Event} {r : Response} {n : Nat}

/-- a move that writes the text refreshes a form that was not written meanwhile -/
theorem Move.written (m : Move setup s e r s') (h : s.Writes e r) :
    ∃ f : Form, s'.form = f.refresh setup.settings ∧ f.edits = s.form.edits := by
  cases m with
  | edited made =>
    have kept := congrArg Form.edits (Edit.apply_frame made)
    exact ⟨_, rfl, kept⟩
  | deselected _ => exact ⟨_, rfl, rfl⟩
  | selecting _ => exact ⟨_, rfl, rfl⟩
  | superseded asked late =>
    obtain ⟨t, asked', latest⟩ := h
    cases asked.symm.trans asked'
    exact absurd latest late
  | loaded _ _ => exact ⟨_, rfl, rfl⟩
  | unloaded _ _ => exact ⟨_, rfl, rfl⟩
  | _ => exact h.elim

/-- any other move leaves the sheet as it is -/
theorem Move.sheet_eq (m : Move setup s e r s') (h : ¬ s.Writes e r) :
    s'.form.sheet = s.form.sheet := by
  cases m with
  | edited _ => exact absurd trivial h
  | deselected _ => exact absurd trivial h
  | selecting _ => exact absurd trivial h
  | loaded asked latest => exact absurd ⟨_, asked, latest⟩ h
  | unloaded asked latest => exact absurd ⟨_, asked, latest⟩ h
  | tipsLoaded _ => exact Form.sheet_settleTips _ _
  | _ => rfl

/-! ### what a move does to the exchanges -/

def exchangeFor (s : Session) : Question → Exchange
  | .fieldsOf entity => .selection ⟨entity, s.form.selections + 1⟩
  | .rowsOf _ => .execution
  | .scoreOf _ => .analysis ⟨s.form.edits, s.form.analyses + 1, s.form.query.summary⟩
  | .tips => .tips

/-- no exchange awaits an answer under a number that is still to come -/
def Numbered (s : Session) : Prop := ∀ n, s.nextNumber ≤ n → s.exchange? n = none

theorem Numbered.lt (h : s.Numbered) {x : Exchange} (hx : s.exchange? n = some x) :
    n < s.nextNumber := by
  apply Nat.lt_of_not_le
  intro hn
  rw [h n hn] at hx
  cases hx

theorem lookup_filter_ne (n m : Nat) (l : List (Nat × Exchange)) :
    (l.filter (·.1 != n)).lookup m = if m = n then none else l.lookup m := by
  induction l with
  | nil => simp
  | cons x l ih => grind

theorem exchange?_without (s : Session) (n m : Nat) :
    (s.without n).exchange? m = if m = n then none else s.exchange? m :=
  lookup_filter_ne n m s.awaited

theorem exchange?_awaiting (s : Session) (f : Form) (x : Exchange) (m : Nat) :
    (s.awaiting f x).exchange? m
      = (s.exchange? m).or (if m = s.nextNumber then some x else none) := by
  show (s.awaited ++ [(s.nextNumber, x)]).lookup m = _
  rw [List.lookup_append, List.lookup_cons, List.lookup_nil]
  by_cases h : m = s.nextNumber
  · rw [if_pos h, beq_iff_eq.mpr h]; rfl
  · rw [if_neg h, beq_eq_false_iff_ne.mpr h]; rfl

/-- a question is put under the next number, and its exchange awaits the answer -/
theorem Move.awaits {q : Question} (m : Move setup s e (.awaits n q) s') :
    n = s.nextNumber ∧ s' = s.awaiting s'.form (s.exchangeFor q) := by
  cases m <;> exact ⟨rfl, rfl⟩

theorem Move.fieldsOf {entity : String} (m : Move setup s e (.awaits n (.fieldsOf entity)) s') :
    ∃ name, e = .select name ∧ s'.form = s.form.select setup.settings (some entity) := by
  cases m with
  | selecting _ => exact ⟨_, rfl, rfl⟩

theorem Move.select_asks {name : Option String} {q : Question}
    (m : Move setup s (.select name) (.awaits n q) s') : ∃ entity, q = .fieldsOf entity := by
  cases m with
  | selecting _ => exact ⟨_, rfl⟩

theorem Move.scoreOf {query : String} (m : Move setup s e (.awaits n (.scoreOf query)) s') :
    e = .analyse ∧ query = s.form.text := by
  cases m with
  | analysing _ => exact ⟨rfl, rfl⟩

theorem Move.rowsOf {query : String} (m : Move setup s e (.awaits n (.rowsOf query)) s') :
    e = .execute ∧ query = s.form.text := by
  cases m with
  | executing _ => exact ⟨rfl, rfl⟩

/-- an exchange that awaits an answer behind a move was just asked for, or awaited it before -/
theorem Move.exchange?_of_move (m : Move setup s e r s') {x : Exchange}
    (h : s'.exchange? n = some x) :
    s.exchange? n = some x ∨ n = s.nextNumber ∧ ∃ q, r = .awaits n q ∧ x = s.exchangeFor q := by
  have opened : ∀ {f : Form} {q : Question}, r = .awaits s.nextNumber q →
      (s.awaiting f (s.exchangeFor q)).exchange? n = some x →
      s.exchange? n = some x ∨ n = s.nextNumber ∧ ∃ q, r = .awaits n q ∧ x = s.exchangeFor q := by
    intro f q hr h
    rw [exchange?_awaiting, Option.or_eq_some_iff] at h
    rcases h with h | ⟨_, h⟩
    · exact .inl h
    · split at h
      · next hn => cases h; exact .inr ⟨hn, q, hn ▸ hr, rfl⟩
      · cases h
  have ended : ∀ {k : Nat}, (s.without k).exchange? n = some x → s.exchange? n = some x := by
    intro k h
    rw [exchange?_without] at h
    split at h
    · cases h
    · exact h
  cases m with
  | selecting _ => exact opened rfl h
  | executing _ => exact opened rfl h
  | analysing _ => exact opened rfl h
  | loadingTips _ => exact opened rfl h
  | superseded _ _ => exact .inl (ended h)
  | loaded _ _ => exact .inl (ended h)
  | unloaded _ _ => exact .inl (ended h)
  | executed _ => exact .inl (ended h)
  | failed _ => exact .inl (ended h)
  | overtaken _ _ => exact .inl (ended h)
  | appraised _ _ _ => exact .inl (ended h)
  | tipsLoaded _ => exact .inl (ended h)
  | stopped _ => exact .inl (ended h)
  | forgotten _ _ => exact .inl (ended h)
  | _ => exact .inl h

/-- the ticket of a selection was there before, or the selection is made in this move -/
theorem Move.selection_cases {t : Form.SelectionTicket} (m : Move setup s e r s')
    (h : s'.exchange? n = some (.selection t)) :
    s.exchange? n = some (.selection t) ∨
      ∃ name, e = .select name ∧ r = .awaits n (.fieldsOf t.entity) ∧
        t.number = s'.form.selections ∧ s'.form.entity = some t.entity := by
  rcases m.exchange?_of_move h with h | ⟨_, q, hr, hq⟩
  · exact .inl h
  · subst hr
    cases q with
    | fieldsOf entity =>
      cases hq
      obtain ⟨name, he, hf⟩ := m.fieldsOf
      rw [hf]
      exact .inr ⟨name, he, rfl, rfl, rfl⟩
    | rowsOf _ => cases hq
    | scoreOf _ => cases hq
    | tips => cases hq

/-- the ticket of an analysis was there before, or the analysis is begun in this move -/
theorem Move.analysis_cases {t : Form.AnalysisTicket} (m : Move setup s e r s')
    (h : s'.exchange? n = some (.analysis t)) :
    s.exchange? n = some (.analysis t) ∨
      e = .analyse ∧ r = .awaits n (.scoreOf s.form.text) ∧
        t = ⟨s.form.edits, s.form.analyses + 1, s.form.query.summary⟩ := by
  rcases m.exchange?_of_move h with h | ⟨_, q, hr, hq⟩
  · exact .inl h
  · subst hr
    cases q with
    | scoreOf text =>
      cases hq
      obtain ⟨he, htext⟩ := m.scoreOf
      rw [htext]
      exact .inr ⟨he, rfl, rfl⟩
    | fieldsOf _ => cases hq
    | rowsOf _ => cases hq
    | tips => cases hq

/-- the exchange of a question awaits its answer under the number given -/
theorem Move.exchange?_awaits {q : Question} (m : Move setup s e (.awaits n q) s')
    (h : s.Numbered) : s'.exchange? n = some (s.exchangeFor q) := by
  obtain ⟨hn, hs⟩ := m.awaits
  rw [hs, exchange?_awaiting, h n (Nat.le_of_eq hn.symm), if_pos hn]
  rfl

theorem Move.nextNumber_le (m : Move setup s e r s') : s.nextNumber ≤ s'.nextNumber := by
  cases m with
  | selecting _ => exact Nat.le_succ _
  | executing _ => exact Nat.le_succ _
  | analysing _ => exact Nat.le_succ _
  | loadingTips _ => exact Nat.le_succ _
  | _ => exact Nat.le_refl _

theorem Move.numbered (m : Move setup s e r s') (h : s.Numbered) : s'.Numbered := by
  intro k hk
  cases hx : s'.exchange? k with
  | none => rfl
  | some x =>
    rcases m.exchange?_of_move hx with hx | ⟨hn, q, hr, _⟩
    · exact absurd (h k (Nat.le_trans m.nextNumber_le hk)) (by rw [hx]; nofun)
    · subst hr
      have hs := congrArg nextNumber m.awaits.2
      have : s'.nextNumber = s.nextNumber + 1 := hs
      omega

/-! ### answers that come too late, or in time -/

theorem answer_superseded {t : Form.SelectionTicket} (asked : s.exchange? n = some (.selection t))
    (late : s.form.selections ≠ t.number) (a : Except Failure Entity) :
    s.step setup (.answer n (.fields a)) = (.selected (.ok ()), s.without n) := by
  have passed : s.form.settleSelection setup.settings t a = (.ok (), s.form) := if_pos late
  show s.answer setup n (.fields a) = _
  rw [answer, asked]
  show (Response.selected (s.form.settleSelection setup.settings t a).1,
    s.settled n (s.form.settleSelection setup.settings t a).2) = _
  rw [passed]
  rfl

end Session

end SoqlForm
