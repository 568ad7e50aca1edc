import SoqlForm.Proofs.Catalog
import SoqlForm.Proofs.Session.Form

/-!
# Fields that come late

Between the selection of an entity and the answer of the metadata source the form is edited with an
empty catalog, and the conditions made meanwhile have free text for their control.  When the fields
come, every control is chosen anew; so it makes no difference whether the edits are made before the
answer or behind it.

* `Form.carried`       the form with fields that it did not have, and with another filter;
* `Counterpart`        two forms, one of which has received what the other still awaits;
* `counterpart_edit`   edits keep them so;
* `fields_late_or_early`   edits before and behind the answer.

Only the revision of the filter tells the two orders apart: a choice of the controls that changes
none of them leaves it alone.
-/

namespace SoqlForm

namespace Form

variable (settings : Settings)

/-- the form with a catalog, a description and a filter that it does not have -/
def carried (catalog : Catalog) (description : Option String) (filter : Filter) (f : Form) : Form :=
  { f with
    filter := filter
    catalog := catalog
    description := description
    isPending := false }.refresh settings

def unrevised (f : Form) : Form := { f with filter := { f.filter with revision := 0 } }

variable {settings} {f : Form}

theorem unrevised_carried {A B : Filter} (h : A.Same B) (catalog : Catalog)
    (description : Option String) :
    (f.carried settings catalog description A).unrevised
      = (f.carried settings catalog description B).unrevised := by
  obtain ⟨conditions, lastId, _⟩ := A
  obtain ⟨conditions', lastId', _⟩ := B
  obtain ⟨rfl, rfl⟩ : conditions = conditions' ∧ lastId = lastId' := h
  rfl

end Form

/-! ### edits on both sides -/

section
variable {settings : Settings} {k : Condition → Condition} {a b : Catalog} {d : Option String}
  {f g : Form}

/-- the second form is the first with fields that have come, its conditions being images of those of
the first -/
def Counterpart (settings : Settings) (k : Condition → Condition) (b : Catalog) (d : Option String)
    (f g : Form) : Prop :=
  ∃ A, f.filter.Corresponds k (fun c => c) A ∧ g = f.carried settings b d A

theorem counterpart_edit (hk : Condition.Carries k (fun c => c) a b) (hf : f.catalog = a)
    (h : Counterpart settings k b d f g) {e : Edit} (he : e ≠ .selectAllFields) :
    Counterpart settings k b d (f.edit settings e).2 (g.edit settings e).2 := by
  subst hf
  obtain ⟨A, hA, hg⟩ := h
  have conditions : e.IsOnConditions →
      Counterpart settings k b d (f.edit settings e).2 (g.edit settings e).2 := by
    intro hon
    subst hg
    have applied := Edit.apply_corresponds (g := f.carried settings b d A) hk hA hon
    unfold Form.edit
    rcases applied with ⟨_, _, F, G, first, second, hG⟩ | ⟨x, first, second⟩
    · rw [first, second]
      exact ⟨G, hG, rfl⟩
    · rw [first, second]
      exact ⟨A, hA, rfl⟩
  cases e with
  | selectAllFields => exact absurd rfl he
  | addCondition => exact conditions trivial
  | removeCondition position => exact conditions trivial
  | updateCondition position change => exact conditions trivial
  | _ => subst hg; exact ⟨A, hA, rfl⟩

theorem counterpart_edited (hk : Condition.Carries k (fun c => c) a b) {es : List Edit}
    (hes : .selectAllFields ∉ es) (hf : f.catalog = a) (h : Counterpart settings k b d f g) :
    Counterpart settings k b d (f.edited settings es) (g.edited settings es) := by
  induction es generalizing f g with
  | nil => exact h
  | cons e es ih =>
    have he : e ≠ .selectAllFields := fun he => hes (he ▸ List.mem_cons_self)
    refine ih (fun hmem => hes (List.mem_cons_of_mem _ hmem)) ?_ (counterpart_edit hk hf h he)
    exact (congrArg Prod.fst (Form.selected_edit settings f e)).trans hf

end

namespace Form

variable {settings : Settings} {f : Form}

/-- edits made before the answer of the source, and behind it -/
theorem unrevised_receive_edited (marked : f.filter.IsMarked) (unloaded : f.catalog = .empty)
    (entity : String) {a : Except Failure Entity}
    (named : ∀ m, a = .ok m → ∀ x ∈ m.fields, x.name ≠ "") {es : List Edit}
    (hes : .selectAllFields ∉ es) :
    ((f.edited settings es).receive settings entity a).unrevised
      = ((f.receive settings entity a).edited settings es).unrevised := by
  cases a with
  | ok m =>
    let catalog := Catalog.ofFields entity m.fields
    have unnamed : catalog.find? "" = none := Catalog.find?_ofFields_eq_none (named m rfl)
    have start : Counterpart settings (Condition.retype catalog) catalog m.description f
        (f.receive settings entity (.ok m)) :=
      ⟨f.filter.retype catalog, Filter.corresponds_retype marked catalog, rfl⟩
    obtain ⟨A, hA, hearly⟩ :=
      counterpart_edited (Condition.carries_retype unnamed) hes unloaded start
    have hlate := Filter.corresponds_retype (isMarked_edited settings marked es) catalog
    rw [hearly]
    exact unrevised_carried (hlate.same hA) _ _
  | error x =>
    have start : Counterpart settings (fun c => c) f.catalog f.description f
        (f.receive settings entity (.error x)) := ⟨f.filter, Filter.corresponds_self f.filter, rfl⟩
    obtain ⟨A, hA, hearly⟩ :=
      counterpart_edited (Condition.carries_self f.catalog) hes rfl start
    have hlate := Filter.corresponds_self (f.edited settings es).filter
    have hselected := selected_edited settings f es
    have hcatalog : (f.edited settings es).catalog = f.catalog := congrArg (·.1) hselected
    have hdescription : (f.edited settings es).description = f.description :=
      congrArg (·.2.1) hselected
    rw [hearly, ← hcatalog, ← hdescription]
    exact unrevised_carried (hlate.same hA) _ _

end Form

namespace Session

variable {setup : Setup} {s s' : Session} {e : Event} {r : Response} {n : Nat}
  {fetch? : Option Nat}

/-! ### a session that awaits its fields -/

/-- a selection empties the catalog; otherwise it stays, or it is the one that the last selection
awaited -/
theorem Move.catalog_cases (m : Move setup s e r s') :
    s'.form.catalog = .empty ∨
      Step.selects (e, r) = false ∧ (s'.form.catalog = s.form.catalog ∨
        ∃ n t, s.exchange? n = some (.selection t) ∧ s.form.selections = t.number ∧
          s'.exchange? n = none) := by
  cases m with
  | edited made =>
    have kept := congrArg Form.catalog (Edit.apply_frame made)
    exact .inr ⟨rfl, .inl kept⟩
  | deselected _ => exact .inl rfl
  | selecting _ => exact .inl rfl
  | loaded asked latest =>
    rename_i n _ _
    have ended : (s.without n).exchange? n = none := by rw [exchange?_without, if_pos rfl]
    exact .inr ⟨rfl, .inr ⟨_, _, asked, latest, ended⟩⟩
  | tipsLoaded _ =>
    rename_i a _
    have kept := congrArg Sheet.catalog (Form.sheet_settleTips s.form a)
    exact .inr ⟨rfl, .inl kept⟩
  | _ => exact .inr ⟨rfl, .inl rfl⟩

/-- whether the catalog is empty as long as the last selection awaits its fields -/
def EmptyUntilFetched (s : Session) : Prop :=
  ∀ n t, s.exchange? n = some (.selection t) → s.form.selections = t.number →
    s.form.catalog = .empty

theorem Move.emptyUntilFetched (m : Move setup s e r s') (hl : Linked fetch? s)
    (h : s.EmptyUntilFetched) : s'.EmptyUntilFetched := by
  intro n t hx hnumber
  rcases m.catalog_cases with hempty | ⟨hs, hcatalog⟩
  · exact hempty
  · rcases m.selection_cases hx with hold | ⟨_, rfl, _⟩
    · rw [m.selections, hs] at hnumber
      rcases hcatalog with hkept | ⟨k, u, asked, latest, hover⟩
      · rw [hkept]
        exact h n t hold hnumber
      · -- two exchanges of the last selection are one, and this one is over
        have hn := (hl.latest_iff hold).mp hnumber
        have hk := (hl.latest_iff asked).mp latest
        cases hn.symm.trans hk
        rw [hover] at hx
        cases hx
    · cases hs

theorem emptyUntilFetched_after (setup : Setup) (es : List Event) :
    ((fresh setup).after setup es).EmptyUntilFetched :=
  history_induction setup (P := fun _ s => s.EmptyUntilFetched) nofun
    (fun hl h m => m.emptyUntilFetched hl h) es

/-- a selection that no other one follows keeps its number -/
theorem selections_after_of_no_select {es : List Event} (latest : ∀ name, .select name ∉ es) :
    (s.after setup es).form.selections = s.form.selections := by
  have none_selects : (s.history setup es).countP Step.selects = 0 := by
    rw [List.countP_eq_zero]
    rintro ⟨e, r⟩ hmem hs
    cases e with
    | select name =>
      apply latest name
      rw [← map_fst_history setup s es]
      exact List.mem_map_of_mem hmem
    | _ => cases hs
  rw [selections_after, none_selects]
  rfl

theorem after_edits (s : Session) (es : List Edit) :
    s.after setup (es.map .edit) = s.withForm (s.form.edited setup.settings es) := by
  induction es generalizing s with
  | nil => rfl
  | cons e es ih => exact ih _

theorem answer_latest {t : Form.SelectionTicket} (asked : s.exchange? n = some (.selection t))
    (latest : s.form.selections = t.number) (a : Except Failure Entity) :
    (s.step setup (.answer n (.fields a))).2
      = s.settled n (s.form.receive setup.settings t.entity a) := by
  show (s.answer setup n (.fields a)).2 = _
  rw [answer, asked]
  show s.settled n (s.form.settleSelection setup.settings t a).2 = _
  rw [Form.settleSelection_of_latest latest]

theorem late_or_early {t : Form.SelectionTicket} {a : Except Failure Entity} {edits : List Edit}
    (held : s.exchange? n = some (.selection t)) (latest : s.form.selections = t.number)
    (marked : s.form.filter.IsMarked) (empty : s.form.catalog = .empty)
    (named : ∀ m, a = .ok m → ∀ x ∈ m.fields, x.name ≠ "") (hedits : .selectAllFields ∉ edits) :
    let late := s.after setup (edits.map .edit ++ [.answer n (.fields a)])
    let early := s.after setup (.answer n (.fields a) :: edits.map .edit)
    late.form.unrevised = early.form.unrevised ∧ late.awaited = early.awaited := by
  intro late early
  let edited := s.form.edited setup.settings edits
  have still : edited.selections = t.number := by
    have kept := Form.selected_edited setup.settings s.form edits
    exact (congrArg (·.2.2) kept).trans latest
  have hlate : late
      = (s.withForm edited).settled n (edited.receive setup.settings t.entity a) := by
    show s.after setup (edits.map .edit ++ [.answer n (.fields a)]) = _
    rw [after_concat, after_edits]
    exact answer_latest (s := s.withForm edited) held still a
  have hearly : early = (s.settled n (s.form.receive setup.settings t.entity a)).withForm
      ((s.form.receive setup.settings t.entity a).edited setup.settings edits) := by
    show s.after setup (.answer n (.fields a) :: edits.map .edit) = _
    rw [after_cons, answer_latest held latest, after_edits]
    rfl
  rw [hlate, hearly]
  exact ⟨Form.unrevised_receive_edited marked empty t.entity named hedits, rfl⟩

/-- **Fields may come late.**  While the last selection awaits its fields, it makes no difference to
the form whether edits are made before the answer of the source or behind it; the revision of the
filter is left out. -/
theorem fields_late_or_early (setup : Setup) (before after : List Event) {name : Option String}
    {q : Question} {a : Except Failure Entity} {edits : List Edit}
    (asked : (((fresh setup).after setup before).step setup (.select name)).1 = .awaits n q)
    (latest : ∀ name', .select name' ∉ after)
    (open_ : ((fresh setup).after setup (before ++ .select name :: after)).exchange? n ≠ none)
    (named : ∀ m, a = .ok m → ∀ x ∈ m.fields, x.name ≠ "")
    (hedits : .selectAllFields ∉ edits) :
    let s := (fresh setup).after setup (before ++ .select name :: after)
    let late := s.after setup (edits.map .edit ++ [.answer n (.fields a)])
    let early := s.after setup (.answer n (.fields a) :: edits.map .edit)
    late.form.unrevised = early.form.unrevised ∧ late.awaited = early.awaited := by
  intro s
  let begun := (fresh setup).after setup before
  have numbered : begun.Numbered := (linked_after setup before).numbered
  have m := step_move setup begun (.select name)
  rw [asked] at m
  obtain ⟨entity, rfl⟩ := m.select_asks
  have hs : s = begun.after setup (.select name :: after) := after_append setup _ before _
  have held : s.exchange? n = some (.selection ⟨entity, begun.form.selections + 1⟩) := by
    rw [hs]
    exact exchange?_still numbered asked (by rw [← hs]; exact open_)
  have hnumber : s.form.selections = begun.form.selections + 1 := by
    rw [hs, after_cons, selections_after_of_no_select latest, m.selections]
    rfl
  exact late_or_early held hnumber (isMarked_after setup _)
    (emptyUntilFetched_after setup _ n _ held hnumber) named hedits

/-- a condition on a picklist, made and filled in before the picklist is known -/
theorem fields_late_or_early_picklist :
    let setup : Setup := ⟨.standard, none⟩
    let s := (fresh setup).after setup [.select (some "Account")]
    let edits : List Edit := [.addCondition, .updateCondition 0 (.field "Rating"),
      .updateCondition 0 (.value "Hot"), .removeCondition 1, .setLimit (some 60000)]
    let a : Except Failure Entity :=
      .ok ⟨none, [⟨"Rating", "Rating", .picklist, ["Hot", "Warm"], false⟩]⟩
    ((fresh setup).step setup (.select (some "Account"))).1 = .awaits 0 (.fieldsOf "Account") ∧
      s.exchange? 0 ≠ none ∧ (∀ m, a = .ok m → ∀ x ∈ m.fields, x.name ≠ "") ∧
      .selectAllFields ∉ edits ∧
      (s.after setup (edits.map .edit ++ [.answer 0 (.fields a)])).form.unrevised
        = (s.after setup (.answer 0 (.fields a) :: edits.map .edit)).form.unrevised := by
  intro setup s edits a
  have asked : ((fresh setup).step setup (.select (some "Account"))).1
      = .awaits 0 (.fieldsOf "Account") := rfl
  have open_ : s.exchange? 0 ≠ none := by decide
  have named : ∀ m, a = .ok m → ∀ x ∈ m.fields, x.name ≠ "" := by
    intro m ha x hx
    cases (Except.ok.inj ha : _ = m)
    rw [List.mem_singleton.mp hx]
    decide
  have hedits : .selectAllFields ∉ edits := by decide
  exact ⟨asked, open_, named, hedits,
    (fields_late_or_early setup [] [] asked nofun open_ named hedits).1⟩

end Session

end SoqlForm
