import SoqlForm.Session.Edit
import SoqlForm.Session.Exchange

/-!
# Runs of a session

A session is a form together with the exchanges that await an answer.  A run is a list of events;
an event is an operation begun by the user, an answer to an exchange or the end of one that is given
up.  Between its question and its answer an exchange lets any other event pass.

* `Session.step`   the response to one event, and the session behind it;
* `Session.run`    the responses to a list of events, in order.

A question that is answered at once is the same as one answered by the next event.
-/

namespace SoqlForm

/-- the scoring service that a session may have -/
inductive Scorer where
  | plain
  | withTips
  deriving Repr, DecidableEq

/-- what stays the same for a whole session -/
structure Setup where
  settings : Settings
  scorer : Option Scorer
  deriving Repr, DecidableEq

inductive Question where
  | fieldsOf (entity : String)
  | rowsOf (query : String)
  | scoreOf (query : String)
  | tips
  deriving Repr, DecidableEq

inductive Answer where
  | fields (answer : Except Failure Entity)
  | rows (answer : Except Failure ResultSet)
  | score (answer : Except Failure Appraisal)
  | tips (answer : Except Failure (List String))

inductive Exchange where
  | selection (ticket : Form.SelectionTicket)
  | execution
  | analysis (ticket : Form.AnalysisTicket)
  | tips
  deriving Repr, DecidableEq

inductive Event where
  | edit (e : Edit)
  | nextTip
  | select (entity : Option String)
  | execute
  | analyse
  | loadTips
  | answer (number : Nat) (answer : Answer)
  | drop (number : Nat)

inductive Response where
  | edited (result : Except Failure Edit.Answer)
  | tip (tip : Option String)
  | selected (result : Except Failure Unit)
  | executed (result : Except Failure ResultSet)
  /-- the verdict, unless the answer was stale -/
  | analysed (verdict : Option Verdict)
  | tipsLoaded
  /-- a question was put, in the exchange with this number -/
  | awaits (number : Nat) (question : Question)
  | dropped
  /-- no exchange of this number and kind awaits an answer -/
  | unexpected

/-- a form and the exchanges that await an answer -/
structure Session where
  form : Form
  /-- the exchanges by number, oldest first -/
  awaited : List (Nat × Exchange)
  nextNumber : Nat

namespace Session

def fresh (setup : Setup) : Session := ⟨.fresh setup.settings, [], 0⟩

variable (setup : Setup) (s : Session)

def exchange? (number : Nat) : Option Exchange := s.awaited.lookup number

def withForm (form : Form) : Session := { s with form := form }

def without (number : Nat) : Session :=
  { s with awaited := s.awaited.filter (·.1 != number) }

/-- puts a question: the exchange awaits its answer -/
def ask (form : Form) (exchange : Exchange) (question : Question) : Response × Session :=
  (.awaits s.nextNumber question,
    ⟨form, s.awaited ++ [(s.nextNumber, exchange)], s.nextNumber + 1⟩)

/-! ### operations of the user -/

def select (entity : Option String) : Response × Session :=
  let form := s.form.select setup.settings (Form.entityNamed? entity)
  match form.selectionTicket? with
  | some ticket => s.ask form (.selection ticket) (.fieldsOf ticket.entity)
  | none => (.selected (.ok ()), s.withForm form)

def execute : Response × Session :=
  match s.form.executionObstacle? with
  | some failure => (.executed (.error failure), s)
  | none => s.ask s.form.beginExecution .execution (.rowsOf s.form.text)

/-- without a scoring service the verdict shown is the answer -/
def analyse : Response × Session :=
  match setup.scorer with
  | none => (.analysed (some s.form.verdict), s)
  | some _ =>
    let form := s.form.beginAnalysis
    s.ask form (.analysis form.analysisTicket) (.scoreOf form.text)

def loadTips : Response × Session :=
  match setup.scorer with
  | some .withTips => s.ask s.form .tips .tips
  | _ => (.tipsLoaded, s)

/-! ### answers -/

/-- the form behind an answer, when the answer is of the kind that was asked for -/
def settle (form : Form) : Exchange → Answer → Option (Response × Form)
  | .selection ticket, .fields answer =>
    let (result, form) := form.settleSelection setup.settings ticket answer
    some (.selected result, form)
  | .execution, .rows answer =>
    let (result, form) := form.settleExecution answer
    some (.executed result, form)
  | .analysis ticket, .score answer =>
    let (verdict, form) := form.settleAnalysis ticket answer
    some (.analysed verdict, form)
  | .tips, .tips answer => some (.tipsLoaded, form.settleTips answer)
  | _, _ => none

def answer (number : Nat) (a : Answer) : Response × Session :=
  match (s.exchange? number).bind (settle setup s.form · a) with
  | some (response, form) => (response, (s.without number).withForm form)
  | none => (.unexpected, s)

/-- gives an exchange up: an execution is no longer in flight, and nothing else changes -/
def drop (number : Nat) : Response × Session :=
  match s.exchange? number with
  | some .execution => (.dropped, (s.without number).withForm s.form.endExecution)
  | some _ => (.dropped, s.without number)
  | none => (.unexpected, s)

/-! ### steps and runs -/

/-- the response to an event, and the session behind it -/
def step : Event → Response × Session
  | .edit e =>
    let (result, form) := s.form.edit setup.settings e
    (.edited result, s.withForm form)
  | .nextTip =>
    let (tip, form) := s.form.nextTip
    (.tip tip, s.withForm form)
  | .select entity => s.select setup entity
  | .execute => s.execute
  | .analyse => s.analyse setup
  | .loadTips => s.loadTips setup
  | .answer number a => s.answer setup number a
  | .drop number => s.drop number

/-- the responses to a list of events, and the session behind them -/
def run (s : Session) : List Event → List Response × Session
  | [] => ([], s)
  | e :: es =>
    let (response, s) := s.step setup e
    let (responses, s) := run s es
    (response :: responses, s)

def after (s : Session) (es : List Event) : Session := es.foldl (fun s e => (s.step setup e).2) s

theorem after_cons (e : Event) (es : List Event) :
    s.after setup (e :: es) = (s.step setup e).2.after setup es := rfl
theorem after_append (a b : List Event) :
    s.after setup (a ++ b) = (s.after setup a).after setup b := by
  simp [after, List.foldl_append]

theorem run_snd (es : List Event) : (s.run setup es).2 = s.after setup es := by
  induction es generalizing s with
  | nil => rfl
  | cons e es ih => exact ih _

end Session

end SoqlForm
