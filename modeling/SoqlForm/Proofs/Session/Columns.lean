import SoqlForm.Proofs.Session.LateFields

/-!
# The columns of the results

The columns are made when rows come, with the catalog that the form has then, and are kept beside
the rows.  A selection takes both away.  Fields that come behind the rows change the catalog and
leave the columns as they are.

* `ShownLast`          the rows that have come last, with no selection since;
* `FieldsBehind`       fields have come behind these rows;
* `Move.shown_cases`   what a move does to the results, the columns and the catalog;
* `columns_after`      the columns on every run;
* `columns_after_late_fields`   a run on which they do not go with the catalog.
-/

namespace SoqlForm

/-- whether the rows shown are taken away in a step: an entity, or none, is selected, or other rows
come -/
def Step.clears : Step → Bool
  | (.select _, _) => true
  | (_, .executed (.ok _)) => true
  | _ => false

theorem Step.not_selects_of_not_clears {st : Step} (h : st.clears = false) :
    st.selects = false := by
  obtain ⟨e, r⟩ := st
  cases e with
  | select _ => cases h
  | _ => rfl

/-- rows have come, and the steps `later` have left them in place -/
def ShownLast (h : List Step) (rows : ResultSet) (later : List Step) : Prop :=
  ∃ earlier n, h = earlier ++ (.answer n (.rows (.ok rows)), .executed (.ok rows)) :: later ∧
    ∀ st ∈ later, st.clears = false

/-- the fields that the last selection has asked for have come behind the rows shown -/
def FieldsBehind (h : List Step) (rows : ResultSet) : Prop :=
  ∃ n m later, latestFetch? h = some n ∧ ShownLast h rows later ∧
    (.answer n (.fields (.ok m)), .selected (.ok ())) ∈ later

theorem shownLast_new (h : List Step) (n : Nat) (rows : ResultSet) :
    ShownLast (h ++ [(.answer n (.rows (.ok rows)), .executed (.ok rows))]) rows [] :=
  ⟨h, n, rfl, by simp⟩

theorem ShownLast.concat {h later : List Step} {rows : ResultSet} {st : Step}
    (hl : ShownLast h rows later) (hs : st.clears = false) :
    ShownLast (h ++ [st]) rows (later ++ [st]) := by
  obtain ⟨earlier, n, rfl, hno⟩ := hl
  refine ⟨earlier, n, by simp, ?_⟩
  intro st' hst
  rcases List.mem_append.mp hst with hst | hst
  · exact hno st' hst
  · rw [List.mem_singleton.mp hst]
    exact hs

theorem FieldsBehind.concat {h : List Step} {rows : ResultSet} {st : Step}
    (hb : FieldsBehind h rows) (hs : st.clears = false) : FieldsBehind (h ++ [st]) rows := by
  obtain ⟨n, m, later, hn, hl, hmem⟩ := hb
  refine ⟨n, m, later ++ [st], ?_, hl.concat hs, List.mem_append_left _ hmem⟩
  rw [latestFetch?_concat, Step.fetchAfter_of_not_selects (Step.not_selects_of_not_clears hs)]
  exact hn

namespace Session

variable {setup : Setup} {s s' : Session} {e : Event} {r : Response} {h : List Step}

/-- a selection empties the results and the columns; rows come with columns made for them; any
other move leaves both as they are, and the catalog too, unless fields come -/
theorem Move.shown_cases (m : Move setup s e r s') :
    s'.form.results = .empty ∧ s'.form.columns = [] ∨
      (∃ n rows, e = .answer n (.rows (.ok rows)) ∧ r = .executed (.ok rows) ∧
        s'.form.results = rows ∧ s'.form.columns = rows.columns s'.form.catalog) ∨
      Step.clears (e, r) = false ∧ s'.form.results = s.form.results ∧
        s'.form.columns = s.form.columns ∧
        (s'.form.catalog = s.form.catalog ∨
          ∃ n t m, s.exchange? n = some (.selection t) ∧ s.form.selections = t.number ∧
            e = .answer n (.fields (.ok m)) ∧ r = .selected (.ok ())) := by
  cases m with
  | edited made =>
    have frame := Edit.apply_frame made
    have results := congrArg Form.results frame
    have columns := congrArg Form.columns frame
    have catalog := congrArg Form.catalog frame
    exact .inr (.inr ⟨rfl, results, columns, .inl catalog⟩)
  | deselected _ => exact .inl ⟨rfl, rfl⟩
  | selecting _ => exact .inl ⟨rfl, rfl⟩
  | loaded asked latest =>
    exact .inr (.inr ⟨rfl, rfl, rfl, .inr ⟨_, _, _, asked, latest, rfl, rfl⟩⟩)
  | executed _ => exact .inr (.inl ⟨_, _, rfl, rfl, rfl, rfl⟩)
  | tipsLoaded _ =>
    rw [Form.settleTips_frame]
    exact .inr (.inr ⟨rfl, rfl, rfl, .inl rfl⟩)
  | _ => exact .inr (.inr ⟨rfl, rfl, rfl, .inl rfl⟩)

/-- the columns go with the results and the catalog, unless the fields have come behind the rows:
then they go with the catalog before, which was empty -/
structure Shown (h : List Step) (s : Session) : Prop where
  rows : s.form.results = .empty ∨ ∃ later, ShownLast h s.form.results later
  columns : s.form.columns = s.form.results.columns s.form.catalog ∨
    FieldsBehind h s.form.results ∧ s.form.columns = s.form.results.columns .empty

theorem shown_fresh (setup : Setup) : Shown [] (fresh setup) where
  rows := .inl rfl
  columns := .inl rfl

theorem Move.shown_rows (m : Move setup s e r s') (p : Shown h s) :
    s'.form.results = .empty ∨ ∃ later, ShownLast (h ++ [(e, r)]) s'.form.results later := by
  rcases m.shown_cases with ⟨hnone, _⟩ | ⟨n, rows, rfl, rfl, hrows, _⟩ | ⟨hs, hkept, _⟩
  · exact .inl hnone
  · rw [hrows]
    exact .inr ⟨[], shownLast_new h n rows⟩
  · rw [hkept]
    rcases p.rows with hnone | ⟨later, hlast⟩
    · exact .inl hnone
    · exact .inr ⟨_, hlast.concat hs⟩

theorem Move.shown_columns (m : Move setup s e r s') (hl : Linked (latestFetch? h) s)
    (he : s.EmptyUntilFetched) (p : Shown h s) :
    s'.form.columns = s'.form.results.columns s'.form.catalog ∨
      FieldsBehind (h ++ [(e, r)]) s'.form.results ∧
        s'.form.columns = s'.form.results.columns .empty := by
  rcases m.shown_cases with ⟨hnone, hcolumns⟩ | ⟨n, rows, _, _, hrows, hcolumns⟩ |
    ⟨hs, hrows, hcolumns, hcatalog | ⟨n, t, m', asked, latest, rfl, rfl⟩⟩
  · rw [hnone, hcolumns]
    exact .inl rfl
  · rw [hrows, hcolumns]
    exact .inl rfl
  · rw [hrows, hcolumns, hcatalog]
    rcases p.columns with current | ⟨behind, former⟩
    · exact .inl current
    · exact .inr ⟨behind.concat hs, former⟩
  · -- until the fields came the catalog was empty
    have former : s.form.columns = s.form.results.columns .empty := by
      rcases p.columns with current | ⟨_, former⟩
      · rw [current, he n t asked latest]
      · exact former
    rw [hrows, hcolumns]
    rcases p.rows with hnone | ⟨later, hlast⟩
    · rw [former, hnone]
      exact .inl rfl
    · refine .inr ⟨⟨n, m', _, ?_, hlast.concat hs, ?_⟩, former⟩
      · rw [latestFetch?_concat]
        exact (hl.latest_iff asked).mp latest
      · exact List.mem_append_right _ List.mem_cons_self

theorem shown_after (setup : Setup) (es : List Event) :
    Shown ((fresh setup).history setup es) ((fresh setup).after setup es) :=
  (history_induction setup (P := fun h s => s.EmptyUntilFetched ∧ Shown h s)
    ⟨nofun, shown_fresh setup⟩
    (fun hl p m => ⟨m.emptyUntilFetched hl p.1, m.shown_rows p.2, m.shown_columns hl p.1 p.2⟩)
    es).2

/-- **The columns shown are those of the results with the catalog of the form**, unless the fields
of the entity have come behind the rows: then they are those that the results have without any
catalog. -/
theorem columns_after (setup : Setup) (es : List Event) :
    let s := (fresh setup).after setup es
    s.form.columns = s.form.results.columns s.form.catalog ∨
      FieldsBehind ((fresh setup).history setup es) s.form.results ∧
        s.form.columns = s.form.results.columns .empty :=
  (shown_after setup es).columns

/-- the fields come behind the rows, and the column of a number is still shown as text -/
theorem columns_after_late_fields :
    ¬ ∀ (setup : Setup) (es : List Event),
      let s := (fresh setup).after setup es
      s.form.columns = s.form.results.columns s.form.catalog := by
  intro law
  let rows : ResultSet := ⟨[.ofList [("Amount", .string "5")]], 1⟩
  let es : List Event := [.select (some "Opportunity"), .execute, .answer 1 (.rows (.ok rows)),
    .answer 0 (.fields (.ok ⟨none, [.plain "Amount" .number]⟩))]
  have stale := congrArg (List.map Column.kind) (law ⟨.standard, none⟩ es)
  have text : [Column.Kind.text] = [Column.Kind.number] := stale
  cases text

end Session

end SoqlForm
