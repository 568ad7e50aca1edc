import SoqlForm.Proofs.Query.Core
import SoqlForm.Proofs.Session.Analysis
import SoqlForm.Proofs.Session.Execution
import SoqlForm.Proofs.Session.Mirror

/-!
# A selection begins anew

Of what came before a selection only the direction and the paging are left.  The session goes on as
a fresh one would, and what still comes to the exchanges of the time before changes nothing that is
shown of the query.

* `Form.outline`         what is shown of a form, without ids, counters and tips;
* `outline_refresh`, `outline_apply`   it depends on nothing but the outline before;
* `Form.opened`          what a selection makes of a form before the text is written;
* `Form.Alike`           two forms with one outline, their counters a lead apart;
* `congruent_alike`      they stay alike, whatever the two undergo;
* `selection_begins_anew`   the two sessions side by side.
-/

namespace SoqlForm

def Condition.unnumbered (c : Condition) : Condition := { c with id := 0 }

namespace Condition

theorem carries_unnumbered {a b : Catalog} (same : a = b) :
    Carries unnumbered unnumbered a b where
  marked_left _ _ := rfl
  marked_right _ _ := rfl
  change {c d} h change := by
    have changed : ∀ c : Condition,
        (c.change a change).unnumbered = c.unnumbered.change a change := by
      intro c
      cases change <;> rfl
    rw [← same, changed, changed, h]

theorem unnumbered_retype (catalog : Catalog) (c : Condition) :
    (c.retype catalog).unnumbered = c.unnumbered.retype catalog := by
  show unnumbered (if c.field = "" then _ else _) = if c.field = "" then _ else _
  split <;> rfl

end Condition

namespace Filter

variable {f g : Filter}

theorem corresponds_unnumbered
    (h : f.conditions.map Condition.unnumbered = g.conditions.map Condition.unnumbered) :
    f.Corresponds Condition.unnumbered Condition.unnumbered g where
  conditions := h
  blank _ := rfl

theorem unnumbered_retype (hf : f.IsMarked) (hg : g.IsMarked) (catalog : Catalog)
    (h : f.conditions.map Condition.unnumbered = g.conditions.map Condition.unnumbered) :
    (f.retype catalog).conditions.map Condition.unnumbered
      = (g.retype catalog).conditions.map Condition.unnumbered := by
  have commute : ∀ cs : List Condition,
      (cs.map (Condition.retype catalog)).map Condition.unnumbered
        = (cs.map Condition.unnumbered).map (Condition.retype catalog) := by
    intro cs
    rw [List.map_map, List.map_map]
    exact List.map_congr_left fun c _ => c.unnumbered_retype catalog
  rw [conditions_retype hf, conditions_retype hg, commute, commute, h]

end Filter

namespace Form

/-- what is shown of a form, with the ids of its conditions, its counters and its tips left out -/
def outline (f : Form) : Form :=
  { f with
    filter := ⟨f.filter.conditions.map Condition.unnumbered, 0, 0⟩
    selections := 0
    edits := 0
    analyses := 0
    tips := .start [] }

variable {settings : Settings} {l : Lead} {f g : Form}

theorem core_query_outline (f : Form) : f.outline.query.core = f.query.core := by
  show { f.query with
    conditions := (f.filter.conditions.map Condition.unnumbered).map Condition.core } = _
  rw [List.map_map]
  rfl

theorem eq_of_outline {α : Type} (shown : Form → α) (outlined : ∀ f, shown f.outline = shown f)
    (h : f.outline = g.outline) : shown f = shown g := by
  rw [← outlined f, h, outlined]

theorem outline_refresh (h : f.outline = g.outline) :
    (f.refresh settings).outline = (g.refresh settings).outline := by
  have catalog := eq_of_outline Form.catalog (fun _ => rfl) h
  have core := eq_of_outline (·.query.core) core_query_outline h
  have text : f.query.render settings.style f.catalog = g.query.render settings.style g.catalog := by
    rw [← Query.render_core, core, Query.render_core, catalog]
  have verdict : f.query.review settings f.catalog = g.query.review settings g.catalog := by
    rw [← Query.review_core, core, Query.review_core, catalog]
  show { f.outline with
      text := f.query.render settings.style f.catalog
      verdict := f.query.review settings f.catalog } =
    { g.outline with
      text := g.query.render settings.style g.catalog
      verdict := g.query.review settings g.catalog }
  rw [h, text, verdict]

theorem outline_summary (h : f.outline = g.outline) : f.query.summary = g.query.summary := by
  have core := eq_of_outline (·.query.core) core_query_outline h
  rw [← Query.summary_core, core, Query.summary_core]

theorem unnumbered_eq_of_outline (h : f.outline = g.outline) :
    f.filter.conditions.map Condition.unnumbered = g.filter.conditions.map Condition.unnumbered :=
  congrArg (·.filter.conditions) h

theorem outline_filter (h : f.outline = g.outline) {A B : Filter}
    (hAB : A.conditions.map Condition.unnumbered = B.conditions.map Condition.unnumbered) :
    { f with filter := A }.outline = { g with filter := B }.outline := by
  show { f.outline with filter := ⟨A.conditions.map Condition.unnumbered, 0, 0⟩ }
    = { g.outline with filter := ⟨B.conditions.map Condition.unnumbered, 0, 0⟩ }
  rw [h, hAB]

/-- an edit is made on both forms, or it fails on both -/
theorem outline_apply (h : f.outline = g.outline) (e : Edit) :
    (e.apply f).map (·.2.outline) = (e.apply g).map (·.2.outline) := by
  have catalog := eq_of_outline Form.catalog (fun _ => rfl) h
  have conditions : e.IsOnConditions →
      (e.apply f).map (·.2.outline) = (e.apply g).map (·.2.outline) := by
    intro hon
    have filters := Filter.corresponds_unnumbered (unnumbered_eq_of_outline h)
    rcases Edit.apply_corresponds (Condition.carries_unnumbered catalog) filters hon with
      ⟨_, _, A, B, first, second, hAB⟩ | ⟨x, first, second⟩
    · rw [first, second]
      exact congrArg Except.ok (outline_filter h hAB.conditions)
    · rw [first, second]
  have alike : ∀ op : Form → Form, (∀ o, (op o).outline = op o.outline) →
      (.ok (op f).outline : Except Failure Form) = .ok (op g).outline := by
    intro op outlined
    rw [outlined, outlined, h]
  cases e with
  | toggleField name checked =>
    exact alike (fun o => { o with fields := Edit.toggle name checked o.fields }) fun _ => rfl
  | selectAllFields => exact alike (fun o => { o with fields := o.catalog.names }) fun _ => rfl
  | clearFields => exact alike (fun o => { o with fields := [] }) fun _ => rfl
  | addCondition => exact conditions trivial
  | removeCondition position => exact conditions trivial
  | updateCondition position change => exact conditions trivial
  | sortBy field =>
    exact alike (fun o => { o with orderBy := field.filter (· != "") }) fun _ => rfl
  | setDirection direction => exact alike (fun o => { o with direction := direction }) fun _ => rfl
  | setLimit limit =>
    exact alike (fun o =>
      { o with limit := (limit.map (min · Query.maxLimit)).filter (0 < ·) }) fun _ => rfl
  | setOffset offset => exact alike (fun o => { o with offset := offset }) fun _ => rfl

/-- the form that a selection makes before it is refreshed; the text and the verdict are left out,
since they will be written over -/
def opened (f : Form) (entity : Option String) : Form :=
  { f.clearSelection with
    entity := entity
    isPending := entity.isSome
    selections := f.selections + 1
    text := ""
    verdict := .neutral "" }

theorem refresh_opened (f : Form) (entity : Option String) :
    (f.opened entity).refresh settings = f.select settings entity := rfl

/-- of the form before a selection only the direction, the paging and the flag are left -/
theorem outline_opened (direction : f.direction = g.direction) (limit : f.limit = g.limit)
    (offset : f.offset = g.offset) (isExecuting : f.isExecuting = g.isExecuting)
    (entity : Option String) : (f.opened entity).outline = (g.opened entity).outline := by
  simp only [opened, outline, clearSelection, Filter.conditions_clear, direction, limit, offset,
    isExecuting]

theorem outline_select (direction : f.direction = g.direction) (limit : f.limit = g.limit)
    (offset : f.offset = g.offset) (isExecuting : f.isExecuting = g.isExecuting)
    (entity : Option String) :
    (f.select settings entity).outline = (g.select settings entity).outline := by
  rw [← refresh_opened, ← refresh_opened]
  exact outline_refresh (outline_opened direction limit offset isExecuting entity)

theorem outline_load (hf : f.filter.IsMarked) (hg : g.filter.IsMarked) (h : f.outline = g.outline)
    (entity : String) (m : Entity) : (f.load entity m).outline = (g.load entity m).outline := by
  have described : { f with
        catalog := .ofFields entity m.fields
        description := m.description }.outline
      = { g with
        catalog := .ofFields entity m.fields
        description := m.description }.outline :=
    congrArg (fun o : Form => { o with
      catalog := .ofFields entity m.fields
      description := m.description }) h
  exact outline_filter described
    (Filter.unnumbered_retype hf hg (.ofFields entity m.fields) (unnumbered_eq_of_outline h))

theorem outline_ready (h : f.outline = g.outline) : f.ready.outline = g.ready.outline :=
  congrArg ready h

theorem outline_receive (hf : f.filter.IsMarked) (hg : g.filter.IsMarked)
    (h : f.outline = g.outline) (entity : String) (a : Except Failure Entity) :
    (f.receive settings entity a).outline = (g.receive settings entity a).outline := by
  cases a with
  | ok m =>
    have loaded : (f.ready.load entity m).outline = (g.ready.load entity m).outline :=
      outline_load (f := f.ready) (g := g.ready) hf hg (outline_ready h) entity m
    exact outline_refresh loaded
  | error x => exact outline_refresh (outline_ready h)

theorem outline_rows (h : f.outline = g.outline) (a : Except Failure ResultSet) :
    (f.settleExecution a).2.outline = (g.settleExecution a).2.outline := by
  cases a with
  | ok rows => exact congrArg (fun o : Form => (o.settleExecution (.ok rows)).2) h
  | error x => exact congrArg (fun o : Form => (o.settleExecution (.error x)).2) h

/-! ### forms that are alike -/

/-- two forms with one outline, their counters a lead apart -/
structure Alike (l : Lead) (f g : Form) : Prop where
  outline : f.outline = g.outline
  separates : l.Separates f g
  marked_left : f.filter.IsMarked
  marked_right : g.filter.IsMarked

theorem Alike.refresh (h : Alike l f g) : Alike l (f.refresh settings) (g.refresh settings) where
  outline := outline_refresh h.outline
  separates := by
    obtain ⟨selections, edits, analyses⟩ := h.separates
    have later : f.edits + 1 = g.edits + 1 + l.edits := by omega
    exact ⟨selections, later, analyses⟩
  marked_left := h.marked_left
  marked_right := h.marked_right

theorem Alike.edit (h : Alike l f g) (e : Edit) :
    Alike l (f.edit settings e).2 (g.edit settings e).2 := by
  have applied := outline_apply h.outline e
  unfold Form.edit
  cases hf : e.apply f with
  | ok made =>
    cases hg : e.apply g with
    | ok made' =>
      rw [hf, hg] at applied
      have counters : l.Separates made.2 made'.2 := by
        rw [Edit.apply_frame hf, Edit.apply_frame hg]
        exact h.separates
      exact Alike.refresh ⟨Except.ok.inj applied, counters, Edit.isMarked hf h.marked_left,
        Edit.isMarked hg h.marked_right⟩
    | error x =>
      rw [hf, hg] at applied
      cases applied
  | error x =>
    cases hg : e.apply g with
    | ok made' =>
      rw [hf, hg] at applied
      cases applied
    | error x' => exact h

theorem Alike.receive (h : Alike l f g) (entity : String) (a : Except Failure Entity) :
    Alike l (f.receive settings entity a) (g.receive settings entity a) where
  outline := outline_receive h.marked_left h.marked_right h.outline entity a
  separates := by
    obtain ⟨selections, edits, analyses⟩ := h.separates
    have later : f.edits + 1 = g.edits + 1 + l.edits := by omega
    cases a <;> exact ⟨selections, later, analyses⟩
  marked_left := isMarked_receive h.marked_left entity a
  marked_right := isMarked_receive h.marked_right entity a

theorem Alike.select (separates : l.Separates f g) (marked_left : f.filter.IsMarked)
    (marked_right : g.filter.IsMarked) (direction : f.direction = g.direction)
    (limit : f.limit = g.limit) (offset : f.offset = g.offset)
    (isExecuting : f.isExecuting = g.isExecuting) (entity : Option String) :
    Alike l (f.select settings entity) (g.select settings entity) where
  outline := outline_select direction limit offset isExecuting entity
  separates := by
    obtain ⟨selections, edits, analyses⟩ := separates
    have later : f.selections + 1 = g.selections + 1 + l.selections := by omega
    have written : f.edits + 1 = g.edits + 1 + l.edits := by omega
    exact ⟨later, written, analyses⟩
  marked_left := Filter.isMarked_clear marked_left
  marked_right := Filter.isMarked_clear marked_right

theorem congruent_alike (settings : Settings) (l : Lead) : Congruent settings l (Alike l) where
  separates h := h.separates
  obstacle h := eq_of_outline Form.executionObstacle? (fun _ => rfl) h.outline
  summary h := outline_summary h.outline
  edit h := h.edit
  nextTip h := ⟨h.outline, h.separates, h.marked_left, h.marked_right⟩
  select h :=
    .select h.separates h.marked_left h.marked_right
      (eq_of_outline Form.direction (fun _ => rfl) h.outline)
      (eq_of_outline Form.limit (fun _ => rfl) h.outline)
      (eq_of_outline Form.offset (fun _ => rfl) h.outline)
      (eq_of_outline Form.isExecuting (fun _ => rfl) h.outline)
  beginExecution h :=
    ⟨congrArg Form.beginExecution h.outline, h.separates, h.marked_left, h.marked_right⟩
  endExecution h :=
    ⟨congrArg Form.endExecution h.outline, h.separates, h.marked_left, h.marked_right⟩
  beginAnalysis {f g} h := by
    obtain ⟨selections, edits, analyses⟩ := h.separates
    have later : f.analyses + 1 = g.analyses + 1 + l.analyses := by omega
    exact ⟨h.outline, ⟨selections, edits, later⟩, h.marked_left, h.marked_right⟩
  receive h := h.receive
  rows h a := by
    have outlined := outline_rows h.outline a
    cases a <;> exact ⟨outlined, h.separates, h.marked_left, h.marked_right⟩
  verdict h v :=
    ⟨congrArg (fun o : Form => { o with verdict := v }) h.outline, h.separates, h.marked_left,
      h.marked_right⟩
  tips h a := by
    rcases a with _ | _ | _ <;> exact ⟨h.outline, h.separates, h.marked_left, h.marked_right⟩

theorem Alike.settleTips_left (h : Alike l f g) (a : Except Failure (List String)) :
    Alike l (f.settleTips a) g := by
  rcases a with _ | _ | _ <;> exact ⟨h.outline, h.separates, h.marked_left, h.marked_right⟩

end Form

namespace Session

/-- a fresh session with the direction and the paging of a form -/
def anew (setup : Setup) (f : Form) : Session :=
  ⟨{ Form.blank setup.settings with
      direction := f.direction
      limit := f.limit
      offset := f.offset }.refresh setup.settings, [], 0⟩

/-- by how much a session is ahead of a fresh one -/
def lead (s : Session) : Lead :=
  ⟨s.nextNumber, s.form.selections, s.form.edits - 1, s.form.analyses⟩

variable {setup : Setup} {s : Session} {fetch? : Option Nat} {h : List Step}

theorem mirrors_anew (setup : Setup) (numbered : s.Numbered) :
    Mirrors s.lead (fun _ _ => True) s (anew setup s.form) where
  form := trivial
  nextNumber := (Nat.zero_add _).symm
  exchange n := numbered (n + s.nextNumber) (Nat.le_add_left _ _)

theorem separates_anew (setup : Setup) (written : 1 ≤ s.form.edits) :
    s.lead.Separates s.form (anew setup s.form).form := by
  have edits : s.form.edits = 1 + (s.form.edits - 1) := by omega
  exact ⟨(Nat.zero_add _).symm, edits, (Nat.zero_add _).symm⟩

/-- a selection outdates all exchanges but an execution -/
theorem stale_select (linked : Linked fetch? s) (appraised : Appraised setup.settings h s)
    (idle : ∀ n, s.exchange? n ≠ some .execution) (name : Option String) :
    (s.step setup (.select name)).2.Stale s.nextNumber := by
  intro n x hn hx
  have m := step_move setup s (.select name)
  have selections : (s.step setup (.select name)).2.form.selections = s.form.selections + 1 :=
    m.selections
  obtain ⟨f, hf, he⟩ := m.written trivial
  have edits : (s.step setup (.select name)).2.form.edits = s.form.edits + 1 := by
    rw [hf, Form.edits_refresh, he]
  rcases m.exchange?_of_move hx with old | ⟨new, _⟩
  · cases x with
    | selection t =>
      show t.number < _
      have hle := linked.number_le old
      omega
    | execution => exact absurd old (idle n)
    | analysis t =>
      show t.edits < _
      have hle := (appraised.ticket old).1
      omega
    | tips => trivial
  · omega

/-- **A selection begins anew.**  While no execution is in flight, the session behind a selection
shows what a fresh session with the same direction and paging shows behind it, whatever else happens
to both and whatever comes to the exchanges of the time before. -/
theorem selection_begins_anew (setup : Setup) {before : List Event}
    (idle : inFlight ((fresh setup).history setup before) = []) (name : Option String)
    (later : List Event) :
    let s := (fresh setup).after setup before
    (s.after setup (.select name :: later)).form.outline
      = ((anew setup s.form).after setup
          (.select name :: later.filterMap (·.since? s.nextNumber))).form.outline := by
  intro s
  have linked := linked_after setup before
  have occupied := occupied_after setup before
  rw [idle] at occupied
  have resting : s.form.isExecuting = false := by
    rcases occupied.flag with ⟨hf, _⟩ | ⟨_, n, hn⟩
    · exact hf
    · cases hn
  have written : 1 ≤ s.form.edits := by
    have edits : s.form.edits = 1 + _ := edits_after linked_fresh before
    omega
  have begun : Mirrors s.lead (Form.Alike s.lead) (s.step setup (.select name)).2
      ((anew setup s.form).step setup (.select name)).2 :=
    mirrors_select (mirrors_anew setup linked.numbered) (Nat.zero_add _).symm name
      (Form.Alike.select (separates_anew setup written) (isMarked_after setup before)
        Filter.isMarked_empty rfl rfl rfl resting)
  exact (mirrors_after_since (Form.congruent_alike setup.settings s.lead)
    (fun alike a => alike.settleTips_left a) begun
    (stale_select linked (appraised_after setup before) (occupied.exchange?_ne resting) name)
    later).form.outline

/-- the fields of the entity before, an appraisal and tips come after another entity is selected -/
theorem selection_begins_anew_late_answers :
    let setup : Setup := ⟨.standard, some .withTips⟩
    let before : List Event := [.select (some "Account"), .edit .addCondition,
      .edit (.setOffset 20), .analyse, .loadTips]
    let s := (fresh setup).after setup before
    let account : Answer := .fields (.ok ⟨none, [⟨"Rating", "Rating", .picklist, [], false⟩]⟩)
    let contact : Answer := .fields (.ok ⟨none, [⟨"Email", "Email", .text, [], true⟩]⟩)
    inFlight ((fresh setup).history setup before) = [] ∧
      (s.after setup [.select (some "Contact"), .answer 0 account, .edit .addCondition,
          .answer 3 contact, .answer 1 (.score (.error .busy)), .answer 2 (.tips (.ok ["tip"])),
          .edit .selectAllFields, .execute, .drop 4]).form.outline
        = ((anew setup s.form).after setup [.select (some "Contact"), .edit .addCondition,
          .answer 0 contact, .edit .selectAllFields, .execute, .drop 1]).form.outline := by
  intro setup before s account contact
  have idle : inFlight ((fresh setup).history setup before) = [] := rfl
  exact ⟨idle, selection_begins_anew setup idle (some "Contact") [.answer 0 account,
    .edit .addCondition, .answer 3 contact, .answer 1 (.score (.error .busy)),
    .answer 2 (.tips (.ok ["tip"])), .edit .selectAllFields, .execute, .drop 4]⟩

end Session

end SoqlForm
