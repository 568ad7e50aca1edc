import SoqlForm.Proofs.Query.Review
import SoqlForm.Proofs.Session.History
import SoqlForm.Proofs.Session.Parts

/-!
# The row limit of a session

Whatever limit the settings give or the user asks for, a session sets none above the greatest one,
and the text, the summary and the review have the one limit that is sent.

* `Form.IsLimited`       no limit above the greatest one is set;
* `Edit.isLimited`, `Move.isLimited`   an edit and a move keep it so;
* `step_setLimit`        what setting a limit answers and sends;
* `limit_as_sent`        all of it together, for the text, the summary, the review and every run.
-/

namespace SoqlForm

def Form.IsLimited (f : Form) : Prop := ∀ n ∈ f.limit, n ≤ Query.maxLimit

theorem Form.isLimited_fresh (settings : Settings) : (fresh settings).IsLimited := by
  intro n hn
  obtain ⟨m, -, rfl⟩ := Option.map_eq_some_iff.mp hn
  exact Nat.min_le_right _ _

theorem Form.IsLimited.of_limit_eq {f g : Form} (h : f.IsLimited) (hg : g.limit = f.limit) :
    g.IsLimited := by
  intro n hn
  exact h n (hg ▸ hn)

/-- a warning is given just if more than the greatest limit is asked for -/
theorem Edit.limitWarning?_ne_none_iff {n : Nat} :
    Edit.limitWarning? n ≠ none ↔ Query.maxLimit < n := by
  unfold Edit.limitWarning?
  split
  · next h => exact iff_of_true (Option.some_ne_none _) h
  · next h => exact iff_of_false (fun hne => hne rfl) h

theorem Edit.of_mem_limitWarning? {n : Nat} {w : LimitWarning} (h : w ∈ Edit.limitWarning? n) :
    w.requested = n ∧ w.applied = Query.maxLimit := by
  unfold Edit.limitWarning? at h
  split at h
  · cases h
    exact ⟨rfl, rfl⟩
  · cases h

theorem Edit.isLimited {f g : Form} {e : Edit} {answer : Answer}
    (made : e.apply f = .ok (answer, g)) (h : f.IsLimited) : g.IsLimited := by
  by_cases hp : e.part = .limit
  · cases e with
    | setLimit limit =>
      cases made
      intro n hn
      exact (Query.bounds_of_effective hn).2
    | _ => cases hp
  · exact h.of_limit_eq (get_of_made made hp)

namespace Session

variable {setup : Setup} {s s' : Session} {e : Event} {r : Response}

theorem Move.isLimited (m : Move setup s e r s') (h : s.form.IsLimited) : s'.form.IsLimited := by
  cases m with
  | edited made => exact (Edit.isLimited made h).of_limit_eq rfl
  | tipsLoaded _ =>
    exact h.of_limit_eq (congrArg (·.query.limit) (Form.sheet_settleTips s.form _))
  | _ => exact h

theorem isLimited_after (setup : Setup) (es : List Event) :
    ((fresh setup).after setup es).form.IsLimited :=
  history_induction setup (P := fun _ s => s.form.IsLimited) (Form.isLimited_fresh _)
    (fun _ h m => m.isLimited h) es

/-- a limit that is asked for is set, or the greatest one with a warning -/
theorem step_setLimit (setup : Setup) (s : Session) (n : Nat) :
    (s.step setup (.edit (.setLimit (some n)))).1
        = .edited (.ok (.limited (Edit.limitWarning? n))) ∧
      (s.step setup (.edit (.setLimit (some n)))).2.form.query.rowLimit?
        = if n = 0 then none else some (min n Query.maxLimit) := by
  refine ⟨rfl, ?_⟩
  show Query.effective (Query.effective (some n)) = _
  rw [Query.effective_effective, Query.effective_some]

end Session

open Query in
/-- **One limit is sent**, at most 50000 and none for zero.  The text, the summary and the review
are those of the query with this limit.  With an entity, two limits give one text just if they give
one summary, just if the same limit is sent; the text has the limit that is sent in one place, and
is otherwise the same.  A session answers with a warning just if more is asked for, and on every
run no limit above 50000 is set. -/
theorem limit_as_sent (settings : Settings) (style : Style) (catalog : Catalog) (q : Query) :
    (q.withLimit q.rowLimit?).render style catalog = q.render style catalog ∧
      (q.withLimit q.rowLimit?).summary = q.summary ∧
      (q.withLimit q.rowLimit?).review settings catalog = q.review settings catalog ∧
      (∀ e, q.target? = some e → ∀ l l' : Option Nat,
        ((q.withLimit l).render style catalog = (q.withLimit l').render style catalog ↔
            (q.withLimit l).summary = (q.withLimit l').summary) ∧
          ((q.withLimit l).summary = (q.withLimit l').summary ↔
            (q.withLimit l).rowLimit? = (q.withLimit l').rowLimit?)) ∧
      (∀ e, q.target? = some e → ∀ l : Option Nat,
        ((q.withLimit l).rowLimit? = none ∧ (q.withLimit l).render style catalog =
            q.beforeLimit style catalog e ++ q.behindLimit) ∨
          ∃ n, (q.withLimit l).rowLimit? = some n ∧ 1 ≤ n ∧ n ≤ 50000 ∧
            (q.withLimit l).render style catalog =
              q.beforeLimit style catalog e ++ " LIMIT " ++ n.repr ++ q.behindLimit) ∧
      ∀ setup : Setup,
        (∀ (s : Session) (n : Nat), ∃ warning?,
          (s.step setup (.edit (.setLimit (some n)))).1 = .edited (.ok (.limited warning?)) ∧
            (warning? ≠ none ↔ 50000 < n) ∧
            (∀ w ∈ warning?, w.requested = n ∧ w.applied = 50000) ∧
            (s.step setup (.edit (.setLimit (some n)))).2.form.query.rowLimit?
              = if n = 0 then none else some (min n 50000)) ∧
        ∀ es, ∀ n ∈ ((Session.fresh setup).after setup es).form.limit, n ≤ 50000 := by
  refine ⟨render_effective style catalog q, summary_effective q,
    (reviewedAlike_effective q).review_eq settings catalog, ?told, ?sent, fun setup =>
      ⟨?asked, Session.isLimited_after setup⟩⟩
  case told =>
    intro e he l l'
    have hsummary : (q.withLimit l).summary = (q.withLimit l').summary ↔
        effective l = effective l' :=
      summary_withLimit_iff he
    exact ⟨(render_withLimit_iff he).trans hsummary.symm, hsummary⟩
  case sent =>
    intro e he l
    rw [rowLimit?_withLimit, render_withLimit he]
    cases h : effective l with
    | none => exact .inl ⟨rfl, by rw [numbered, String.append_empty]⟩
    | some n =>
      obtain ⟨hpos, hle⟩ := bounds_of_effective h
      refine .inr ⟨n, rfl, hpos, hle, ?_⟩
      rw [numbered, String.append_empty]
      simp only [String.append_assoc]
  case asked =>
    intro s n
    obtain ⟨hanswer, hsent⟩ := Session.step_setLimit setup s n
    exact ⟨Edit.limitWarning? n, hanswer, Edit.limitWarning?_ne_none_iff,
      fun _ => Edit.of_mem_limitWarning?, hsent⟩

/-- two limits above the greatest one, and a session whose settings ask for the greatest word -/
theorem limit_as_sent_lowered :
    let q := (Query.ofEntity "Account").skip 3
    let setup : Setup := ⟨{ Settings.standard with defaultLimit := some 4294967295 }, none⟩
    let s := (Session.fresh setup).after setup [.edit (.setDirection .descending)]
    q.target? = some "Account" ∧
      (q.withLimit (some 60000)).render .standard .empty =
        (q.withLimit (some 4294967295)).render .standard .empty ∧
      s.form.limit = some 50000 ∧ 50000 ≤ 50000 := by
  intro q setup s
  have htarget : q.target? = some "Account" := by decide
  obtain ⟨-, -, -, htold, -, hsession⟩ := limit_as_sent .standard .standard .empty q
  obtain ⟨htext, hsummary⟩ := htold "Account" htarget (some 60000) (some 4294967295)
  have hlimit : s.form.limit = some 50000 := by decide
  exact ⟨htarget, htext.mpr (hsummary.mpr (by decide)), hlimit,
    (hsession setup).2 [.edit (.setDirection .descending)] 50000 hlimit⟩

end SoqlForm
