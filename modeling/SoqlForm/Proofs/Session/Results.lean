import SoqlForm.Proofs.Session.Execution

/-!
# Whose results are shown

A selection empties the results.  Unlike the fields of an entity and an appraisal, the rows of an
execution carry no ticket: they are shown whenever they come.  So they belong to the entity selected
last unless they come for an execution that was in flight when it was selected.

* `BegunSince`    an execution that was begun behind the last selection;
* `ShownSince`    rows that came for such an execution;
* `Overtaken`     an execution that was in flight at a selection;
* `results_after`               where the results come from, when no rows come for such a one;
* `results_after_reselection`   a run on which they belong to the entity before.
-/

namespace SoqlForm

/-- an execution was begun under a number and the steps `later` came behind it, no selection among
them -/
def BegunSince (h : List Step) (n : Nat) (later : List Step) : Prop :=
  ∃ earlier text, h = earlier ++ (.execute, .awaits n (.rowsOf text)) :: later ∧
    ∀ st ∈ later, st.selects = false

def ShownSince (h : List Step) (rows : ResultSet) : Prop :=
  ∃ n later, BegunSince h n later ∧ (.answer n (.rows (.ok rows)), .executed (.ok rows)) ∈ later

theorem BegunSince.concat {h later : List Step} {n : Nat} {st : Step} (hb : BegunSince h n later)
    (hs : st.selects = false) : BegunSince (h ++ [st]) n (later ++ [st]) := by
  obtain ⟨earlier, text, rfl, hno⟩ := hb
  refine ⟨earlier, text, by simp, ?_⟩
  intro st' hst
  rcases List.mem_append.mp hst with hst | hst
  · exact hno st' hst
  · rw [List.mem_singleton.mp hst]
    exact hs

theorem ShownSince.concat {h : List Step} {rows : ResultSet} {st : Step} (hr : ShownSince h rows)
    (hs : st.selects = false) : ShownSince (h ++ [st]) rows := by
  obtain ⟨n, later, hb, hmem⟩ := hr
  exact ⟨n, later ++ [st], hb.concat hs, List.mem_append_left _ hmem⟩

namespace Session

variable {setup : Setup} {s s' : Session} {e : Event} {r : Response} {n : Nat} {h : List Step}

/-- an execution was in flight when an entity, or none, was selected -/
def Overtaken (setup : Setup) (es : List Event) (n : Nat) : Prop :=
  ∃ before name after, es = before ++ .select name :: after ∧
    ((fresh setup).after setup before).exchange? n = some .execution

theorem Overtaken.concat {es : List Event} (ho : Overtaken setup es n) (e : Event) :
    Overtaken setup (es ++ [e]) n := by
  obtain ⟨before, name, after, rfl, asked⟩ := ho
  exact ⟨before, name, after ++ [e], by simp, asked⟩

/-- the results were asked for behind the last selection, and so were the executions in flight but
those that a selection has overtaken -/
structure Current (setup : Setup) (es : List Event) (h : List Step) (s : Session) : Prop where
  begun : ∀ n, s.exchange? n = some .execution →
    Overtaken setup es n ∨ ∃ later, BegunSince h n later
  shown : s.form.results = .empty ∨ ShownSince h s.form.results

/-- an execution that awaits its rows behind a move did so before it, or begins in it -/
theorem Move.execution_cases (m : Move setup s e r s')
    (hx : s'.exchange? n = some .execution) :
    s.exchange? n = some .execution ∨ e = .execute ∧ r = .awaits n (.rowsOf s.form.text) := by
  rcases m.exchange?_of_move hx with hx | ⟨_, q, hr, hq⟩
  · exact .inl hx
  · subst hr
    cases q with
    | rowsOf text =>
      obtain ⟨he, htext⟩ := m.rowsOf
      rw [htext]
      exact .inr ⟨he, rfl⟩
    | fieldsOf _ => cases hq
    | scoreOf _ => cases hq
    | tips => cases hq

/-- the results stay, are emptied by a selection, or are the rows that have come -/
theorem Move.results_cases (m : Move setup s e r s') :
    s'.form.results = .empty ∨
      Step.selects (e, r) = false ∧ s'.form.results = s.form.results ∨
        ∃ n, s.exchange? n = some .execution ∧
          e = .answer n (.rows (.ok s'.form.results)) ∧ r = .executed (.ok s'.form.results) := by
  cases m with
  | edited made =>
    have kept := congrArg Form.results (Edit.apply_frame made)
    exact .inr (.inl ⟨rfl, kept⟩)
  | deselected _ => exact .inl rfl
  | selecting _ => exact .inl rfl
  | executed asked => exact .inr (.inr ⟨_, asked, rfl, rfl⟩)
  | tipsLoaded _ =>
    rw [Form.settleTips_frame]
    exact .inr (.inl ⟨rfl, rfl⟩)
  | _ => exact .inr (.inl ⟨rfl, rfl⟩)

theorem current_after (setup : Setup) (es : List Event)
    (inTime : ∀ n rows before after, es = before ++ .answer n (.rows (.ok rows)) :: after →
      ¬ Overtaken setup before n) :
    Current setup es ((fresh setup).history setup es) ((fresh setup).after setup es) := by
  induction es using List.reverseRecOn with
  | nil => exact ⟨nofun, .inl rfl⟩
  | append_singleton es e ih =>
    have current := ih fun n rows before after heq =>
      inTime n rows before (after ++ [e]) (by rw [heq]; simp)
    have m := step_move setup ((fresh setup).after setup es) e
    rw [history_concat, after_concat]
    constructor
    · intro n hx
      rcases m.execution_cases hx with asked | ⟨he, hr⟩
      · rcases current.begun n asked with overtaken | ⟨later, begun⟩
        · exact .inl (overtaken.concat e)
        · cases hs : Step.selects (e, (((fresh setup).after setup es).step setup e).1) with
          | true =>
            -- the selection overtakes what is in flight
            cases e with
            | select name => exact .inl ⟨es, name, [], rfl, asked⟩
            | _ => cases hs
          | false => exact .inr ⟨_, begun.concat hs⟩
      · rw [he] at hr ⊢
        rw [hr]
        exact .inr ⟨[], _, _, rfl, by simp⟩
    · rcases m.results_cases with hnone | ⟨hs, hkept⟩ | ⟨n, asked, he, hr⟩
      · exact .inl hnone
      · rw [hkept]
        rcases current.shown with hnone | hshown
        · exact .inl hnone
        · exact .inr (hshown.concat hs)
      · rcases current.begun n asked with overtaken | ⟨later, begun⟩
        · exact absurd overtaken (inTime n _ es [] (by rw [← he]))
        · rw [hr]
          generalize (((fresh setup).after setup es).step setup e).2.form.results = rows at he ⊢
          rw [he]
          exact .inr ⟨n, _, begun.concat rfl, List.mem_append_right _ List.mem_cons_self⟩

/-- **Unless rows come for an execution that a selection has overtaken, the results belong to the
entity selected last**: they are the rows that came for an execution begun since. -/
theorem results_after (setup : Setup) (es : List Event)
    (inTime : ∀ n rows before after, es = before ++ .answer n (.rows (.ok rows)) :: after →
      ¬ Overtaken setup before n) :
    let s := (fresh setup).after setup es
    s.form.results = .empty ∨ ShownSince ((fresh setup).history setup es) s.form.results :=
  (current_after setup es inTime).shown

/-- an execution that a selection overtakes and that fails, and another one that succeeds -/
theorem results_after_failure :
    let setup : Setup := ⟨.standard, none⟩
    let rows : ResultSet := ⟨[.ofList [("Name", .string "Acme")]], 1⟩
    let es : List Event := [.select (some "Account"), .execute, .select (some "Contact"),
      .answer 1 (.rows (.error .busy)), .execute, .answer 3 (.rows (.ok rows))]
    (∀ n rows before after, es = before ++ .answer n (.rows (.ok rows)) :: after →
        ¬ Overtaken setup before n) ∧
      ShownSince ((fresh setup).history setup es) rows := by
  intro setup rows es
  have inTime : ∀ n rows before after, es = before ++ .answer n (.rows (.ok rows)) :: after →
      ¬ Overtaken setup before n := by
    rintro n rows' _ after heq ⟨before, name, between, rfl, asked⟩
    have hn : n = 3 := by
      have hmem : .answer n (.rows (.ok rows')) ∈ es := by rw [heq]; simp
      simp [es] at hmem
      exact hmem.1
    subst hn
    -- at neither of the two selections is the second execution in flight
    rcases before with _ | ⟨_, _ | ⟨_, _ | ⟨_, before⟩⟩⟩
    · cases asked
    · simp [es] at heq
    · simp only [es, List.cons_append, List.nil_append, List.cons.injEq] at heq
      obtain ⟨rfl, rfl, _⟩ := heq
      cases asked
    · have hmem : .select name ∈ es.drop 3 := by rw [heq]; simp
      simp [es] at hmem
  exact ⟨inTime, (results_after setup es inTime).resolve_left (by
    intro hempty
    cases congrArg ResultSet.total hempty)⟩

/-- rows that come after another entity has been selected are shown all the same -/
theorem results_after_reselection :
    ¬ ∀ (setup : Setup) (es : List Event),
      let s := (fresh setup).after setup es
      s.form.results = .empty ∨ ShownSince ((fresh setup).history setup es) s.form.results := by
  intro law
  let setup : Setup := ⟨.standard, none⟩
  let rows : ResultSet := ⟨[.ofList [("Name", .string "Acme")]], 1⟩
  let es : List Event := [.select (some "Account"), .execute, .select (some "Contact"),
    .answer 1 (.rows (.ok rows))]
  rcases law setup es with hempty | ⟨n, later, ⟨earlier, text, heq, hno⟩, _⟩
  · cases congrArg ResultSet.total hempty
  · have hevents : es = earlier.map Prod.fst ++ .execute :: later.map Prod.fst := by
      rw [← map_fst_history setup (fresh setup) es, heq]
      simp
    -- the execution is the second event, so the second selection is behind it
    have hlate : .select (some "Contact") ∈ later.map Prod.fst := by
      rcases earlier with _ | ⟨_, _ | ⟨_, earlier⟩⟩ <;> simp [es] at hevents
      · rw [← hevents.2]
        exact List.mem_cons_self
      · have hmem : .execute ∈ [Event.select (some "Contact"), .answer 1 (.rows (.ok rows))] := by
          rw [hevents.2.2]
          simp
        simp at hmem
    obtain ⟨⟨e, r⟩, hst, rfl⟩ := List.mem_map.mp hlate
    cases hno _ hst

end Session

end SoqlForm
