import SoqlForm.Appraisal
import SoqlForm.Session.Form

/-!
# Exchanges with collaborators

Four operations ask somebody else: the metadata source for the fields of an entity, the store for
the rows of a query, the scoring service for an appraisal or for tips.  Each has a part before the
question, which gives a ticket, and a part behind the answer, which gets the ticket back.  Anything
may happen to the form in between; the ticket tells whether the answer still fits.

* selection: the answer counts if no entity has been selected since;
* execution: one at a time, the flag is up until the answer comes or is given up;
* analysis: the answer counts if the text has not been written and no analysis been asked for since;
* tips: the answer counts if there are any.
-/

namespace SoqlForm

namespace Form

variable (settings : Settings) (f : Form)

/-! ### selecting an entity -/

/-- what a selection remembers while the fields are fetched -/
structure SelectionTicket where
  entity : String
  number : Nat
  deriving Repr, DecidableEq

/-- the entity that a text names: blanks around it do not count, and an empty name is none -/
def entityNamed? (name : Option String) : Option String :=
  (name.map fun s => String.ofList (Text.trim s.toList)).filter (· != "")

/-- the form with nothing left that belongs to the selected entity; paging and direction stay -/
def clearSelection : Form :=
  { f with
    fields := []
    filter := f.filter.clear
    orderBy := none
    results := .empty
    columns := []
    catalog := .empty
    description := none }

/-- selects an entity whose fields are still to come, or none -/
def select (entity : Option String) : Form :=
  { f.clearSelection with
    entity := entity
    isPending := entity.isSome
    selections := f.selections + 1 }.refresh settings

/-- the ticket of the selection just made, unless it selected nothing -/
def selectionTicket? : Option SelectionTicket := f.entity.map (⟨·, f.selections⟩)

def load (name : String) (entity : Entity) : Form :=
  let catalog := Catalog.ofFields name entity.fields
  { f with
    catalog := catalog
    description := entity.description
    filter := f.filter.retype catalog }

/-- the form once the source has answered; an answer to an earlier selection is passed over -/
def settleSelection (ticket : SelectionTicket) (answer : Except Failure Entity) :
    Except Failure Unit × Form :=
  if f.selections ≠ ticket.number then (.ok (), f)
  else
    match answer with
    | .ok entity => (.ok (), ({ f with isPending := false }.load ticket.entity entity).refresh settings)
    | .error e => (.error e.asMetadata, { f with isPending := false }.refresh settings)

/-! ### executing the query -/

def nothingToExecute : Failure := .invalidQuery "Please build a valid query first"

/-- why the query cannot be executed now, if it cannot -/
def executionObstacle? : Option Failure :=
  if f.entity = none then some nothingToExecute
  else if f.isExecuting then some .busy
  else none

def beginExecution : Form := { f with isExecuting := true }

def endExecution : Form := { f with isExecuting := false }

/-- the form once the store has answered: rows are kept with their columns -/
def settleExecution (answer : Except Failure ResultSet) : Except Failure ResultSet × Form :=
  match answer with
  | .ok rows =>
    (.ok rows, { f with results := rows, columns := rows.columns f.catalog }.endExecution)
  | .error e => (.error e.asExecution, f.endExecution)

/-! ### having the query appraised -/

/-- what an analysis remembers while the service works -/
structure AnalysisTicket where
  /-- the number of the last writing of the text -/
  edits : Nat
  number : Nat
  /-- the explanation to be shown if the service fails -/
  explanation : String
  deriving Repr, DecidableEq

def beginAnalysis : Form := { f with analyses := f.analyses + 1 }

def analysisTicket : AnalysisTicket := ⟨f.edits, f.analyses, f.query.summary⟩

/-- the verdict that an answer of the service amounts to -/
def AnalysisTicket.verdict (ticket : AnalysisTicket) : Except Failure Appraisal → Verdict
  | .ok appraisal => appraisal.verdict
  | .error _ => .neutral ticket.explanation

/-- the form once the service has answered; a stale answer is passed over -/
def settleAnalysis (ticket : AnalysisTicket) (answer : Except Failure Appraisal) :
    Option Verdict × Form :=
  if f.edits ≠ ticket.edits ∨ f.analyses ≠ ticket.number then (none, f)
  else (some (ticket.verdict answer), { f with verdict := ticket.verdict answer })

/-! ### loading tips -/

/-- the form once the service has answered; only a list that is not empty replaces the tips -/
def settleTips (answer : Except Failure (List String)) : Form :=
  match answer with
  | .ok [] => f
  | .ok tips => { f with tips := .start tips }
  | .error _ => f

end Form

end SoqlForm
