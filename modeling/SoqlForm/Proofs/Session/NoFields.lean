import SoqlForm.Proofs.Session.Controls
import SoqlForm.Proofs.Session.LateFields
import SoqlForm.Proofs.Session.Pending
import SoqlForm.Proofs.Session.Selection

/-!
# A failed fetch and an entity without fields

When the metadata source fails, the form goes on as if the entity had no fields.  The two forms
differ in the name that the catalog bears, which no operation reads.

* `Catalog.unnamed`   a catalog without its name, and so for forms and sessions;
* `unnamed_step`      a session without the name takes the same step;
* `run_of_unnamed_eq` so sessions that differ in this name answer alike for ever;
* `unnamed_load_no_fields`, `receive_failure`   a failure and an empty list of fields leave the same
                      form;
* `failed_fetch_as_no_fields`   the two answers, and all that comes behind them.

To load no fields leaves the catalog, the description and the conditions as they are: until the
fields come, the catalog is empty, and the controls have been chosen from it.
-/

namespace SoqlForm

/-! ### the name of a catalog -/

def Catalog.unnamed (c : Catalog) : Catalog := { c with entity := none }

namespace Form

def unnamed (f : Form) : Form := { f with catalog := f.catalog.unnamed }

variable (settings : Settings)

theorem unnamed_apply (f : Form) (e : Edit) :
    e.apply f.unnamed = (e.apply f).map fun (a, g) => (a, g.unnamed) := by
  cases e with
  | removeCondition position =>
    show (f.filter.remove position).map _ = ((f.filter.remove position).map _).map _
    cases f.filter.remove position <;> rfl
  | updateCondition position change =>
    show (f.filter.update f.catalog position change).map _
      = ((f.filter.update f.catalog position change).map _).map _
    cases f.filter.update f.catalog position change <;> rfl
  | _ => rfl

theorem unnamed_edit (f : Form) (e : Edit) :
    f.unnamed.edit settings e = ((f.edit settings e).1, (f.edit settings e).2.unnamed) := by
  unfold edit
  rw [unnamed_apply]
  cases e.apply f <;> rfl

theorem unnamed_settleSelection (f : Form) (t : SelectionTicket) (a : Except Failure Entity) :
    (f.unnamed.settleSelection settings t a).1 = (f.settleSelection settings t a).1 ∧
      (f.unnamed.settleSelection settings t a).2.unnamed
        = (f.settleSelection settings t a).2.unnamed := by
  by_cases late : f.selections ≠ t.number
  · have late' : f.unnamed.selections ≠ t.number := late
    unfold settleSelection
    rw [if_pos late, if_pos late']
    exact ⟨rfl, rfl⟩
  · have latest : ¬ f.unnamed.selections ≠ t.number := late
    unfold settleSelection
    rw [if_neg late, if_neg latest]
    cases a <;> exact ⟨rfl, rfl⟩

theorem unnamed_settleAnalysis (f : Form) (t : AnalysisTicket) (a : Except Failure Appraisal) :
    f.unnamed.settleAnalysis t a
      = ((f.settleAnalysis t a).1, (f.settleAnalysis t a).2.unnamed) := by
  unfold settleAnalysis
  by_cases late : f.edits ≠ t.edits ∨ f.analyses ≠ t.number
  · have late' : f.unnamed.edits ≠ t.edits ∨ f.unnamed.analyses ≠ t.number := late
    rw [if_pos late, if_pos late']
  · have fits : ¬ (f.unnamed.edits ≠ t.edits ∨ f.unnamed.analyses ≠ t.number) := late
    rw [if_neg late, if_neg fits]
    rfl

end Form

namespace Session

def unnamed (s : Session) : Session := s.withForm s.form.unnamed

variable (setup : Setup)

theorem unnamed_edit (s : Session) (e : Edit) :
    s.unnamed.step setup (.edit e)
      = ((s.step setup (.edit e)).1, (s.step setup (.edit e)).2.unnamed) := by
  show (Response.edited (s.form.unnamed.edit setup.settings e).1,
    s.withForm (s.form.unnamed.edit setup.settings e).2) = _
  rw [Form.unnamed_edit]
  rfl

theorem unnamed_execute (s : Session) :
    s.unnamed.execute = (s.execute.1, s.execute.2.unnamed) := by
  have same : s.unnamed.form.executionObstacle? = s.form.executionObstacle? := rfl
  unfold execute
  rw [same]
  cases s.form.executionObstacle? <;> rfl

theorem unnamed_analyse (s : Session) :
    s.unnamed.analyse setup = ((s.analyse setup).1, (s.analyse setup).2.unnamed) := by
  unfold analyse
  cases setup.scorer <;> rfl

theorem unnamed_loadTips (s : Session) :
    s.unnamed.loadTips setup = ((s.loadTips setup).1, (s.loadTips setup).2.unnamed) := by
  unfold loadTips
  split <;> rfl

theorem unnamed_drop (s : Session) (n : Nat) :
    s.unnamed.drop n = ((s.drop n).1, (s.drop n).2.unnamed) := by
  have same : s.unnamed.exchange? n = s.exchange? n := rfl
  unfold drop
  rw [same]
  split <;> rfl

/-- an answer is fit for an exchange whatever the name of the catalog; the fields of an entity bring
their own -/
theorem unnamed_settle (f : Form) (x : Exchange) (a : Answer) :
    Option.Rel (fun p q => p.1 = q.1 ∧ p.2.unnamed = q.2.unnamed)
      (settle setup f.unnamed x a) (settle setup f x a) := by
  cases x with
  | selection ticket =>
    cases a with
    | fields a =>
      obtain ⟨result, form⟩ := f.unnamed_settleSelection setup.settings ticket a
      exact .some ⟨congrArg Response.selected result, form⟩
    | _ => exact .none
  | execution =>
    cases a with
    | rows a => cases a <;> exact .some ⟨rfl, rfl⟩
    | _ => exact .none
  | analysis ticket =>
    cases a with
    | score a =>
      show Option.Rel _ (some (Response.analysed (f.unnamed.settleAnalysis ticket a).1,
          (f.unnamed.settleAnalysis ticket a).2))
        (some (Response.analysed (f.settleAnalysis ticket a).1, (f.settleAnalysis ticket a).2))
      rw [Form.unnamed_settleAnalysis]
      exact .some ⟨rfl, rfl⟩
    | _ => exact .none
  | tips =>
    cases a with
    | tips a => rcases a with _ | _ | _ <;> exact .some ⟨rfl, rfl⟩
    | _ => exact .none

theorem unnamed_answer (s : Session) (n : Nat) (a : Answer) :
    (s.unnamed.answer setup n a).1 = (s.answer setup n a).1 ∧
      (s.unnamed.answer setup n a).2.unnamed = (s.answer setup n a).2.unnamed := by
  have same : s.unnamed.exchange? n = s.exchange? n := rfl
  have form : s.unnamed.form = s.form.unnamed := rfl
  unfold answer
  rw [same, form]
  cases s.exchange? n with
  | none => exact ⟨rfl, rfl⟩
  | some x =>
    -- either both sessions take the answer or it is unfit for both
    have rel := unnamed_settle setup s.form x a
    rw [Option.bind_some, Option.bind_some]
    generalize settle setup s.form.unnamed x a = p, settle setup s.form x a = q at rel ⊢
    cases rel with
    | none => exact ⟨rfl, rfl⟩
    | some related =>
      obtain ⟨response, form⟩ := related
      have session := congrArg (s.without n).withForm form
      exact ⟨response, session⟩

/-- **A session without the name takes the same step**: the response is the same, and so is the
session behind it, up to the name. -/
theorem unnamed_step (s : Session) (e : Event) :
    (s.unnamed.step setup e).1 = (s.step setup e).1 ∧
      (s.unnamed.step setup e).2.unnamed = (s.step setup e).2.unnamed := by
  have alike : ∀ {p q : Response × Session}, p = (q.1, q.2.unnamed) →
      p.1 = q.1 ∧ p.2.unnamed = q.2.unnamed := by
    rintro _ q rfl
    exact ⟨rfl, rfl⟩
  cases e with
  | edit e => exact alike (s.unnamed_edit setup e)
  | nextTip => exact ⟨rfl, rfl⟩
  | select name => exact ⟨rfl, rfl⟩
  | execute => exact alike s.unnamed_execute
  | analyse => exact alike (s.unnamed_analyse setup)
  | loadTips => exact alike (s.unnamed_loadTips setup)
  | answer n a => exact s.unnamed_answer setup n a
  | drop n => exact alike (s.unnamed_drop n)

/-- **Sessions that differ in the name of the catalog answer alike for ever.** -/
theorem run_of_unnamed_eq {s t : Session} (h : s.unnamed = t.unnamed) (es : List Event) :
    (s.run setup es).1 = (t.run setup es).1 ∧
      (s.after setup es).unnamed = (t.after setup es).unnamed := by
  induction es generalizing s t with
  | nil => exact ⟨rfl, h⟩
  | cons e es ih =>
    obtain ⟨response_s, session_s⟩ := unnamed_step setup s e
    obtain ⟨response_t, session_t⟩ := unnamed_step setup t e
    -- both steps are those of the one session without the name
    rw [h] at response_s session_s
    have response : (s.step setup e).1 = (t.step setup e).1 := response_s.symm.trans response_t
    obtain ⟨responses, session⟩ := ih (session_s.symm.trans session_t)
    refine ⟨?_, session⟩
    show (s.step setup e).1 :: ((s.step setup e).2.run setup es).1
      = (t.step setup e).1 :: ((t.step setup e).2.run setup es).1
    rw [response, responses]

end Session

/-! ### an empty list of fields -/

theorem Filter.retype_no_fields (f : Filter) (entity : String) :
    f.retype (.ofFields entity []) = f.retype .empty := rfl

namespace Form

variable {f : Form}

/-- to load no fields leaves a form without a catalog as it is, up to the name of the catalog -/
theorem unnamed_load_no_fields (empty : f.catalog = .empty) (description : f.description = none)
    (typed : f.filter.IsTyped f.catalog) (entity : String) :
    (f.load entity ⟨none, []⟩).unnamed = f.unnamed := by
  rw [empty] at typed
  -- the controls have been chosen from an empty catalog, so they are not chosen otherwise now
  have kept : f.filter.retype (.ofFields entity []) = f.filter := by
    rw [Filter.retype_no_fields, Filter.retype_of_isTyped typed]
  show { f with
      catalog := Catalog.unnamed (.ofFields entity [])
      description := none
      filter := f.filter.retype (.ofFields entity []) } = f.unnamed
  rw [kept, ← description]
  show _ = { f with catalog := f.catalog.unnamed }
  rw [empty]
  rfl

/-- while the fields are awaited, a failure and an empty list of fields leave the same form, up to
the name of the catalog -/
theorem receive_failure (settings : Settings) (empty : f.catalog = .empty)
    (description : f.description = none) (typed : f.filter.IsTyped f.catalog) (entity : String)
    (x : Failure) :
    (f.receive settings entity (.error x)).unnamed
      = (f.receive settings entity (.ok ⟨none, []⟩)).unnamed := by
  have loaded : (f.ready.load entity ⟨none, []⟩).unnamed = f.ready.unnamed :=
    unnamed_load_no_fields (f := f.ready) empty description typed entity
  rw [receive_error, receive_ok]
  exact congrArg (fun o => (o.refresh settings).unnamed) loaded.symm

end Form

namespace Session

variable {setup : Setup} {s : Session} {n : Nat}

theorem response_latest {t : Form.SelectionTicket} (asked : s.exchange? n = some (.selection t))
    (latest : s.form.selections = t.number) (a : Except Failure Entity) :
    (s.step setup (.answer n (.fields a))).1
      = .selected ((a.map fun _ => ()).mapError Failure.asMetadata) := by
  show (s.answer setup n (.fields a)).1 = _
  rw [answer, asked]
  show Response.selected (s.form.settleSelection setup.settings t a).1 = _
  unfold Form.settleSelection
  rw [if_neg (not_not_intro latest)]
  cases a <;> rfl

/-- while the fields of the last selection are awaited, nothing has been loaded -/
theorem unloaded_after {before : List Event}
    (latest : latestFetch? ((fresh setup).history setup before) = some n)
    (open_ : ((fresh setup).after setup before).exchange? n ≠ none) :
    let s := (fresh setup).after setup before
    ∃ t, s.exchange? n = some (.selection t) ∧ s.form.selections = t.number ∧
      s.form.catalog = .empty ∧ s.form.description = none := by
  intro s
  obtain ⟨x, hx⟩ := Option.ne_none_iff_exists'.mp open_
  obtain ⟨t, rfl⟩ := (fetching_after setup before).fetches latest x hx
  have number := ((linked_after setup before).latest_iff hx).mpr latest
  have empty := emptyUntilFetched_after setup before n t hx number
  refine ⟨t, hx, number, empty, ?_⟩
  rcases (selected_after setup before).catalog with ⟨_, description⟩ | loaded
  · exact description
  · -- a catalog that has been loaded bears the name of its entity
    obtain ⟨_, entity, _, m, _, _, _, catalog, _⟩ := loaded
    have named : some entity = none := congrArg Catalog.entity (catalog.symm.trans empty)
    cases named

/-- **A failed fetch is a fetch of no fields.**  While the last selection awaits its fields, it makes
no difference whether the source fails or says that the entity has none: all that comes behind is
answered alike, and the sessions are the same but for the name of the catalog, which nobody reads.
Only the selection itself is told of the failure. -/
theorem failed_fetch_as_no_fields (setup : Setup) (before : List Event) {n : Nat}
    (latest : latestFetch? ((fresh setup).history setup before) = some n)
    (open_ : ((fresh setup).after setup before).exchange? n ≠ none) (x : Failure) :
    let s := (fresh setup).after setup before
    let failed := s.step setup (.answer n (.fields (.error x)))
    let loaded := s.step setup (.answer n (.fields (.ok ⟨none, []⟩)))
    failed.1 = .selected (.error (.metadataUnavailable (match x with
        | .metadataUnavailable message => message
        | _ => x.message))) ∧
      loaded.1 = .selected (.ok ()) ∧
      ∀ later : List Event, (failed.2.run setup later).1 = (loaded.2.run setup later).1 ∧
        (failed.2.after setup later).unnamed = (loaded.2.after setup later).unnamed := by
  intro s failed loaded
  obtain ⟨t, asked, number, empty, description⟩ := unloaded_after latest open_
  have told : failed.1 = .selected (.error x.asMetadata) := response_latest asked number _
  have same : failed.2.unnamed = loaded.2.unnamed := by
    have form := Form.receive_failure setup.settings empty description
      (isTyped_after setup before) t.entity x
    show (s.step setup (.answer n (.fields (.error x)))).2.unnamed
      = (s.step setup (.answer n (.fields (.ok ⟨none, []⟩)))).2.unnamed
    rw [answer_latest asked number, answer_latest asked number]
    exact congrArg (s.without n).withForm form
  refine ⟨?_, response_latest asked number _, run_of_unnamed_eq setup same⟩
  rw [told]
  cases x <;> rfl

/-- a condition is made and filled in, and then the source is busy -/
theorem failed_fetch_as_no_fields_busy :
    let setup : Setup := ⟨.standard, none⟩
    let before : List Event := [.select (some "Account"), .edit .addCondition,
      .edit (.updateCondition 0 (.field "Rating")), .edit (.updateCondition 0 (.value "Hot"))]
    let s := (fresh setup).after setup before
    let failed := s.step setup (.answer 0 (.fields (.error .busy)))
    let loaded := s.step setup (.answer 0 (.fields (.ok ⟨none, []⟩)))
    latestFetch? ((fresh setup).history setup before) = some 0 ∧ s.exchange? 0 ≠ none ∧
      failed.1 = .selected (.error (.metadataUnavailable "A query is already executing")) ∧
      loaded.1 = .selected (.ok ()) ∧
      ∀ later : List Event, (failed.2.run setup later).1 = (loaded.2.run setup later).1 ∧
        (failed.2.after setup later).unnamed = (loaded.2.after setup later).unnamed := by
  intro setup before s failed loaded
  have latest : latestFetch? ((fresh setup).history setup before) = some 0 := rfl
  have open_ : s.exchange? 0 ≠ none := by decide
  exact ⟨latest, open_, failed_fetch_as_no_fields setup before latest open_ .busy⟩

end Session

end SoqlForm
