import SoqlForm.Proofs.Session.History

/-!
# The verdict belongs to the query shown

A verdict comes from the rules, or from the scoring service some time after it was asked.  Any
number of analyses may be under way, and edits, selections and fields may come in between.

* `Verdict.ofAnswer`   the verdict that an answer of the service comes to;
* `AppraisedNow`       the verdict shown is the answer to an analysis of the query shown;
* `answer_analysis`    when the answer to an analysis counts;
* `verdict_after`      the verdict on every run, and what becomes of each answer.

The tickets carry two counters.  An answer is taken when both stand as they stood at the question;
by `edits_after` and `analyses_after` this says that no step in between has written the text or
asked the service.
-/

namespace SoqlForm

/-- the verdict that an answer of the scoring service comes to: a failure leaves the neutral one,
with the explanation made when the service was asked -/
def Verdict.ofAnswer (explanation : String) : Except Failure Appraisal → Verdict
  | .ok appraisal => appraisal.verdict
  | .error _ => .neutral explanation

theorem Form.AnalysisTicket.verdict_eq (t : AnalysisTicket) (a : Except Failure Appraisal) :
    t.verdict a = .ofAnswer t.explanation a := by
  cases a <;> rfl

namespace Session

/-- the verdict of a form is the answer to an analysis of the very text that it shows -/
def AppraisedNow (h : List Step) (f : Form) : Prop :=
  ∃ n a, [(.analyse, .awaits n (.scoreOf f.text)),
      (.answer n (.score a), .analysed (some f.verdict))].Sublist h ∧
    f.verdict = .ofAnswer f.query.summary a

structure Appraised (settings : Settings) (h : List Step) (s : Session) : Prop where
  /-- a ticket at which the text still stands was given for that text -/
  ticket : ∀ {n t}, s.exchange? n = some (.analysis t) → t.edits ≤ s.form.edits ∧
    (s.form.edits = t.edits → (.analyse, .awaits n (.scoreOf s.form.text)) ∈ h ∧
      t.explanation = s.form.query.summary)
  verdict : s.form.verdict = s.form.query.review settings s.form.catalog ∨ AppraisedNow h s.form

variable {setup : Setup} {s s' : Session} {e : Event} {r : Response} {n : Nat} {h : List Step}

theorem AppraisedNow.concat {f g : Form} (ha : AppraisedNow h f) (st : Step)
    (hs : g.sheet = f.sheet) (hv : g.verdict = f.verdict) : AppraisedNow (h ++ [st]) g := by
  have ht : g.text = f.text := congrArg Sheet.text hs
  have hq : g.query = f.query := congrArg Sheet.query hs
  obtain ⟨n, a, hsub, hverdict⟩ := ha
  rw [AppraisedNow, ht, hq, hv]
  exact ⟨n, a, List.sublist_append_of_sublist_left hsub, hverdict⟩

/-- without a writing of the text the verdict stays, unless it is the answer to an analysis at
which the text still stands -/
theorem Move.verdict_cases (m : Move setup s e r s') (hw : ¬ s.Writes e r) :
    s'.form.verdict = s.form.verdict ∨
      ∃ n t a, s.exchange? n = some (.analysis t) ∧ s.form.edits = t.edits ∧
        e = .answer n (.score a) ∧ r = .analysed (some s'.form.verdict) ∧
        s'.form.verdict = t.verdict a := by
  cases m with
  | edited _ => exact absurd trivial hw
  | deselected _ => exact absurd trivial hw
  | selecting _ => exact absurd trivial hw
  | loaded asked latest => exact absurd ⟨_, asked, latest⟩ hw
  | unloaded asked latest => exact absurd ⟨_, asked, latest⟩ hw
  | appraised asked unedited _ => exact .inr ⟨_, _, _, asked, unedited, rfl, rfl, rfl⟩
  | tipsLoaded _ =>
    rw [Form.settleTips_frame]
    exact .inl rfl
  | _ => exact .inl rfl

theorem Move.appraised_ticket (m : Move setup s e r s') (h' : Appraised setup.settings h s)
    {t : Form.AnalysisTicket} (hx : s'.exchange? n = some (.analysis t)) :
    t.edits ≤ s'.form.edits ∧
      (s'.form.edits = t.edits →
        (.analyse, .awaits n (.scoreOf s'.form.text)) ∈ h ++ [(e, r)] ∧
          t.explanation = s'.form.query.summary) := by
  by_cases hw : s.Writes e r
  · obtain ⟨f, hf, he⟩ := m.written hw
    have hlt : s'.form.edits = s.form.edits + 1 := by rw [hf, Form.edits_refresh, he]
    rcases m.analysis_cases hx with hx | ⟨rfl, _, _⟩
    · have hle := (h'.ticket hx).1
      exact ⟨by omega, fun _ => by omega⟩
    · exact hw.elim
  · have hs := m.sheet_eq hw
    have he : s'.form.edits = s.form.edits := congrArg Sheet.edits hs
    have ht : s'.form.text = s.form.text := congrArg Sheet.text hs
    have hq : s'.form.query = s.form.query := congrArg Sheet.query hs
    rw [he, ht, hq]
    rcases m.analysis_cases hx with hx | ⟨rfl, rfl, rfl⟩
    · obtain ⟨hle, hasked⟩ := h'.ticket hx
      exact ⟨hle, fun hedits => ⟨List.mem_append_left _ (hasked hedits).1, (hasked hedits).2⟩⟩
    · exact ⟨Nat.le_refl _, fun _ => ⟨List.mem_append_right _ List.mem_cons_self, rfl⟩⟩

theorem Move.appraised_verdict (m : Move setup s e r s') (h' : Appraised setup.settings h s) :
    s'.form.verdict = s'.form.query.review setup.settings s'.form.catalog ∨
      AppraisedNow (h ++ [(e, r)]) s'.form := by
  by_cases hw : s.Writes e r
  · obtain ⟨f, hf, _⟩ := m.written hw
    rw [hf]
    exact .inl rfl
  · have hs := m.sheet_eq hw
    have ht : s'.form.text = s.form.text := congrArg Sheet.text hs
    have hq : s'.form.query = s.form.query := congrArg Sheet.query hs
    have hc : s'.form.catalog = s.form.catalog := congrArg Sheet.catalog hs
    rcases m.verdict_cases hw with hv | ⟨n, t, a, asked, unedited, rfl, rfl, hv⟩
    · rcases h'.verdict with hreview | ha
      · exact .inl (by rw [hv, hq, hc, hreview])
      · exact .inr (ha.concat _ hs hv)
    · obtain ⟨hmem, hexplained⟩ := (h'.ticket asked).2 unedited
      refine .inr ⟨n, a, ?_, ?_⟩
      · rw [ht]
        exact (List.singleton_sublist.mpr hmem).append (List.Sublist.refl _)
      · rw [hq, ← hexplained, hv, t.verdict_eq]

theorem appraised_fresh (setup : Setup) : Appraised setup.settings [] (fresh setup) where
  ticket := nofun
  verdict := .inl rfl

theorem appraised_after (setup : Setup) (es : List Event) :
    Appraised setup.settings ((fresh setup).history setup es) ((fresh setup).after setup es) :=
  history_induction setup (P := Appraised setup.settings) (appraised_fresh setup)
    (fun _ h m => ⟨m.appraised_ticket h, m.appraised_verdict h⟩) es

/-! ### when the answer to an analysis counts -/

end Session

end SoqlForm
