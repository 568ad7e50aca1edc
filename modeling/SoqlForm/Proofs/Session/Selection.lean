import SoqlForm.Proofs.Session.History

/-!
# The catalog belongs to the entity selected last

The fields of an entity come some time after its selection, or never.  Whatever the order in which
selections and their answers follow one another, the catalog is empty or holds the fields that the
last selection has asked for.

* `SelectedLast`   the selection that a history has made last;
* `Move.selected`  the last selection is the one whose answer counts;
* `catalog_after`  the catalog on every run, and what becomes of an answer to an earlier selection.
-/

namespace SoqlForm

/-- the last selection of a history has asked for the fields of an entity under a number; the steps
`later` came behind it -/
def SelectedLast (h : List Step) (n : Nat) (entity : String) (later : List Step) : Prop :=
  ∃ earlier name, h = earlier ++ (.select name, .awaits n (.fieldsOf entity)) :: later ∧
    ∀ st ∈ later, st.selects = false

theorem selectedLast_new (h : List Step) (name : Option String) (n : Nat) (entity : String) :
    SelectedLast (h ++ [(.select name, .awaits n (.fieldsOf entity))]) n entity [] :=
  ⟨h, name, rfl, by simp⟩

theorem SelectedLast.concat {h later : List Step} {n : Nat} {entity : String} {st : Step}
    (hl : SelectedLast h n entity later) (hs : st.selects = false) :
    SelectedLast (h ++ [st]) n entity (later ++ [st]) := by
  obtain ⟨earlier, name, rfl, hno⟩ := hl
  refine ⟨earlier, name, by simp, ?_⟩
  intro st' hst
  rcases List.mem_append.mp hst with hst | hst
  · exact hno st' hst
  · rw [List.mem_singleton.mp hst]
    exact hs

namespace Session

def LoadedLast (h : List Step) (f : Form) : Prop :=
  ∃ n entity later m, SelectedLast h n entity later ∧
    (.answer n (.fields (.ok m)), .selected (.ok ())) ∈ later ∧
    f.entity = some entity ∧ f.catalog = .ofFields entity m.fields ∧
    f.description = m.description

structure Selected (h : List Step) (s : Session) : Prop where
  /-- the ticket with the current number is that of the last selection -/
  latest : ∀ {n t}, s.exchange? n = some (.selection t) → s.form.selections = t.number →
    s.form.entity = some t.entity ∧ ∃ later, SelectedLast h n t.entity later
  catalog : s.form.catalog = .empty ∧ s.form.description = none ∨ LoadedLast h s.form

variable {setup : Setup} {s s' : Session} {e : Event} {r : Response} {n : Nat} {h : List Step}

theorem LoadedLast.concat {f g : Form} {st : Step} (hl : LoadedLast h f)
    (hs : st.selects = false) (he : g.entity = f.entity) (hc : g.catalog = f.catalog)
    (hd : g.description = f.description) : LoadedLast (h ++ [st]) g := by
  obtain ⟨n, entity, later, m, hlast, hmem, hentity, hcatalog, hdescription⟩ := hl
  exact ⟨n, entity, later ++ [st], m, hlast.concat hs, List.mem_append_left _ hmem,
    he.trans hentity, hc.trans hcatalog, hd.trans hdescription⟩

theorem Move.entity_eq (m : Move setup s e r s') (hs : Step.selects (e, r) = false) :
    s'.form.entity = s.form.entity := by
  cases m with
  | edited made =>
    have kept := congrArg Form.entity (Edit.apply_frame made)
    exact kept
  | deselected _ => cases hs
  | selecting _ => cases hs
  | tipsLoaded _ => exact congrArg (Query.entity ∘ Sheet.query) (Form.sheet_settleTips _ _)
  | _ => rfl

theorem Move.selected_catalog (m : Move setup s e r s') (h' : Selected h s) :
    s'.form.catalog = .empty ∧ s'.form.description = none ∨
      LoadedLast (h ++ [(e, r)]) s'.form := by
  have kept : Step.selects (e, r) = false → s'.form.catalog = s.form.catalog →
      s'.form.description = s.form.description →
      s'.form.catalog = .empty ∧ s'.form.description = none ∨
        LoadedLast (h ++ [(e, r)]) s'.form := by
    intro hs hc hd
    rcases h'.catalog with ⟨hc', hd'⟩ | hl
    · exact .inl ⟨hc.trans hc', hd.trans hd'⟩
    · exact .inr (hl.concat hs (m.entity_eq hs) hc hd)
  cases m with
  | deselected _ => exact .inl ⟨rfl, rfl⟩
  | selecting _ => exact .inl ⟨rfl, rfl⟩
  | edited made =>
    have hc := congrArg Form.catalog (Edit.apply_frame made)
    have hd := congrArg Form.description (Edit.apply_frame made)
    exact kept rfl hc hd
  | loaded asked latest =>
    rename_i n t m
    obtain ⟨hentity, later, hlast⟩ := h'.latest asked latest
    exact .inr ⟨n, t.entity, later ++ [_], m, hlast.concat rfl,
      List.mem_append_right _ List.mem_cons_self, hentity, rfl, rfl⟩
  | tipsLoaded _ =>
    rename_i a _
    have hsheet := Form.sheet_settleTips s.form a
    exact kept rfl (congrArg Sheet.catalog hsheet) (congrArg Sheet.description hsheet)
  | _ => exact kept rfl rfl rfl

theorem Move.selected (m : Move setup s e r s') (hl : Linked (latestFetch? h) s)
    (h' : Selected h s) : Selected (h ++ [(e, r)]) s' := by
  refine ⟨?_, m.selected_catalog h'⟩
  intro n t hx hnumber
  rcases m.selection_cases hx with hx | ⟨name, rfl, rfl, _, hentity⟩
  · rw [m.selections] at hnumber
    have hle := hl.number_le hx
    cases hs : Step.selects (e, r) with
    | true =>
      rw [hs, Bool.toNat_true] at hnumber
      omega
    | false =>
      rw [hs, Bool.toNat_false, Nat.add_zero] at hnumber
      obtain ⟨hentity, later, hlast⟩ := h'.latest hx hnumber
      exact ⟨(m.entity_eq hs).trans hentity, _, hlast.concat hs⟩
  · exact ⟨hentity, [], selectedLast_new h name n t.entity⟩

theorem selected_fresh (setup : Setup) : Selected [] (fresh setup) where
  latest := nofun
  catalog := .inl ⟨rfl, rfl⟩

theorem selected_after (setup : Setup) (es : List Event) :
    Selected ((fresh setup).history setup es) ((fresh setup).after setup es) :=
  history_induction setup (P := Selected) (selected_fresh setup)
    (fun hl h m => Move.selected m hl h) es

/-! ### an answer to an earlier selection -/

/-- a selection that another one has followed is counted too low to be taken for the last -/
theorem selections_lt_of_select {es : List Event} {name name' : Option String}
    (follows : .select name' ∈ es) :
    s.form.selections + 1 < (s.after setup (.select name :: es)).form.selections := by
  have first := (step_move setup s (.select name)).selections
  replace first : (s.step setup (.select name)).2.form.selections = s.form.selections + 1 := first
  rw [after_cons, selections_after, first]
  rw [← map_fst_history setup (s.step setup (.select name)).2 es] at follows
  obtain ⟨⟨e, r⟩, hmem, rfl⟩ := List.mem_map.mp follows
  have hpos : 0 < ((s.step setup (.select name)).2.history setup es).countP Step.selects :=
    List.countP_pos_iff.mpr ⟨_, hmem, rfl⟩
  omega

theorem answer_of_followed {es : List Event} {name name' : Option String} {q : Question}
    (numbered : s.Numbered) (asked : (s.step setup (.select name)).1 = .awaits n q)
    (follows : .select name' ∈ es)
    (open_ : (s.after setup (.select name :: es)).exchange? n ≠ none)
    (a : Except Failure Entity) :
    (s.after setup (.select name :: es)).step setup (.answer n (.fields a))
      = (.selected (.ok ()), (s.after setup (.select name :: es)).without n) := by
  have m := step_move setup s (.select name)
  rw [asked] at m
  obtain ⟨entity, rfl⟩ := m.select_asks
  have held := exchange?_still numbered asked open_
  have late : s.form.selections + 1 < (s.after setup (.select name :: es)).form.selections :=
    selections_lt_of_select follows
  exact answer_superseded held (Nat.ne_of_gt late) a

/-- **The catalog is empty, or it is that of the entity selected last**, made of the fields that
came in answer to that very selection; and an answer that comes to a selection after another one
has been made changes nothing, whatever the names of the entities. -/
theorem catalog_after (setup : Setup) (es : List Event) :
    let s := (fresh setup).after setup es
    (s.form.catalog = .empty ∧ s.form.description = none ∨
        ∃ n entity later m, SelectedLast ((fresh setup).history setup es) n entity later ∧
          (.answer n (.fields (.ok m)), .selected (.ok ())) ∈ later ∧
          s.form.entity = some entity ∧ s.form.catalog = .ofFields entity m.fields ∧
          s.form.description = m.description) ∧
      ∀ (before after : List Event) (name name' : Option String) (n : Nat) (q : Question)
        (a : Except Failure Entity),
        es = before ++ .select name :: after →
        (((fresh setup).after setup before).step setup (.select name)).1 = .awaits n q →
        .select name' ∈ after → s.exchange? n ≠ none →
        s.step setup (.answer n (.fields a)) = (.selected (.ok ()), s.without n) := by
  intro s
  refine ⟨(selected_after setup es).catalog, ?_⟩
  rintro before after name name' n q a rfl asked follows open_
  have hs : s = ((fresh setup).after setup before).after setup (.select name :: after) :=
    after_append setup _ before _
  rw [hs] at open_ ⊢
  exact answer_of_followed (linked_after setup before).numbered asked follows open_ a

/-- an entity is selected once more before its fields come; then they come for both selections, and
the catalog is that of the second -/
theorem catalog_after_reselection :
    let setup : Setup := ⟨.standard, none⟩
    let es : List Event := [.select (some "Account"), .select (some "Account")]
    let s := (fresh setup).after setup es
    let answers : List Event := [.answer 0 (.fields (.ok ⟨none, [.plain "Name" .text]⟩)),
      .answer 1 (.fields (.ok ⟨some "Customers", [.plain "Name" .text, .plain "Rating" .text]⟩))]
    let loaded := (fresh setup).after setup (es ++ answers)
    ((fresh setup).step setup (.select (some "Account"))).1 = .awaits 0 (.fieldsOf "Account") ∧
      s.exchange? 0 ≠ none ∧
      s.step setup (.answer 0 (.fields (.ok ⟨none, [.plain "Name" .text]⟩)))
        = (.selected (.ok ()), s.without 0) ∧
      loaded.form.catalog.names = ["Name", "Rating"] ∧
      ∃ n entity later m,
        SelectedLast ((fresh setup).history setup (es ++ answers)) n entity later ∧
        (.answer n (.fields (.ok m)), .selected (.ok ())) ∈ later ∧
        loaded.form.entity = some entity ∧ loaded.form.catalog = .ofFields entity m.fields ∧
        loaded.form.description = m.description := by
  intro setup es s answers loaded
  have open_ : s.exchange? 0 ≠ none := by decide
  have names : loaded.form.catalog.names = ["Name", "Rating"] := by decide
  have filled : ¬ (loaded.form.catalog = .empty ∧ loaded.form.description = none) := by
    rintro ⟨empty, -⟩
    rw [empty] at names
    cases names
  refine ⟨rfl, open_, ?superseded, names, ?latest⟩
  case superseded =>
    exact (catalog_after setup es).2 [] [.select (some "Account")] _ (some "Account") 0 _ _ rfl rfl
      List.mem_cons_self open_
  case latest => exact (catalog_after setup (es ++ answers)).1.resolve_left filled

end Session

end SoqlForm
