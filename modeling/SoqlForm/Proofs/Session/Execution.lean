import SoqlForm.Proofs.Session.History

/-!
# One execution at a time

An execution is in flight from the question put to the store until its rows come, it fails, or it is
given up.  A form has a flag for this; the history of a run tells it without the flag.

* `inFlight`          the executions that a history has begun and not ended, by number;
* `Occupied`          flag and exchanges of a session agree with the executions in flight;
* `Move.occupied`     a move keeps them so;
* `execution_after`   what becomes of an execution on every run.
-/

namespace SoqlForm

/-- the executions in flight behind a step, given those in flight before it -/
def Step.inFlightAfter (flying : List Nat) : Step → List Nat
  | (.execute, .awaits n _) => flying ++ [n]
  | (.answer n _, .executed _) => flying.filter (· != n)
  | (.drop n, .dropped) => flying.filter (· != n)
  | _ => flying

/-- whether an event ends the execution with a number: its rows come, it fails, or it is given up -/
def Event.EndsExecution (n : Nat) : Event → Prop
  | .answer k (.rows _) => k = n
  | .drop k => k = n
  | _ => False

def inFlight (h : List Step) : List Nat := h.foldl Step.inFlightAfter []

theorem inFlight_concat (h : List Step) (st : Step) :
    inFlight (h ++ [st]) = st.inFlightAfter (inFlight h) := by
  rw [inFlight, List.foldl_append]
  rfl

namespace Session

variable {setup : Setup} {s s' : Session} {e : Event} {r : Response} {n : Nat} {flying : List Nat}

/-- the executions in flight are those that await their rows, and the flag is up for exactly one -/
structure Occupied (flying : List Nat) (s : Session) : Prop where
  exchange_iff : ∀ n, s.exchange? n = some .execution ↔ n ∈ flying
  flag : s.form.isExecuting = false ∧ flying = [] ∨ s.form.isExecuting = true ∧ ∃ n, flying = [n]

theorem occupied_fresh (setup : Setup) : Occupied [] (fresh setup) where
  exchange_iff _ := iff_of_false nofun List.not_mem_nil
  flag := .inl ⟨rfl, rfl⟩

theorem Occupied.free (h : Occupied flying s) (hf : s.form.isExecuting = false) : flying = [] := by
  rcases h.flag with ⟨_, hno⟩ | ⟨hup, _⟩
  · exact hno
  · rw [hf] at hup
    cases hup

theorem Occupied.exchange?_ne (h : Occupied flying s) (hf : s.form.isExecuting = false) (n : Nat) :
    s.exchange? n ≠ some .execution := by
  intro hx
  have hn := (h.exchange_iff n).mp hx
  rw [h.free hf] at hn
  cases hn

theorem Occupied.isExecuting_iff (h : Occupied flying s) :
    s.form.isExecuting = true ↔ ∃ n, flying = [n] := by
  rcases h.flag with ⟨hf, hno⟩ | ⟨hf, hone⟩
  · rw [hf, hno]
    exact iff_of_false Bool.false_ne_true nofun
  · exact iff_of_true hf hone

theorem Occupied.length_le (h : Occupied flying s) : flying.length ≤ 1 := by
  rcases h.flag with ⟨_, rfl⟩ | ⟨_, n, rfl⟩
  · exact Nat.zero_le 1
  · exact Nat.le_refl 1

theorem Occupied.withForm (h : Occupied flying s) {f : Form}
    (hf : f.isExecuting = s.form.isExecuting) : Occupied flying (s.withForm f) where
  exchange_iff := h.exchange_iff
  flag := by
    show f.isExecuting = false ∧ _ ∨ f.isExecuting = true ∧ _
    rw [hf]
    exact h.flag

theorem Occupied.awaiting (h : Occupied flying s) {f : Form} {x : Exchange} (hx : x ≠ .execution)
    (hf : f.isExecuting = s.form.isExecuting) : Occupied flying (s.awaiting f x) where
  exchange_iff k := by
    rw [exchange?_awaiting, ← h.exchange_iff]
    cases s.exchange? k with
    | some y => rfl
    | none =>
      refine iff_of_false ?_ nofun
      show ¬ (if k = s.nextNumber then some x else none) = some .execution
      split
      · simpa using hx
      · nofun
  flag := (h.withForm hf).flag

theorem Occupied.settled (h : Occupied flying s) {f : Form}
    (hn : s.exchange? n ≠ some .execution) (hf : f.isExecuting = s.form.isExecuting) :
    Occupied flying (s.settled n f) where
  exchange_iff k := by
    show (s.without n).exchange? k = _ ↔ _
    rw [exchange?_without, ← h.exchange_iff]
    split
    · next hk =>
      subst hk
      exact iff_of_false nofun hn
    · exact Iff.rfl
  flag := (h.withForm hf).flag

theorem Occupied.begun (h : Occupied [] s) (numbered : s.Numbered) {f : Form}
    (hf : f.isExecuting = true) : Occupied [s.nextNumber] (s.awaiting f .execution) where
  exchange_iff k := by
    have old : s.exchange? k ≠ some .execution := fun hk => by
      have := (h.exchange_iff k).mp hk
      cases this
    rw [exchange?_awaiting, List.mem_singleton]
    by_cases hk : k = s.nextNumber
    · rw [if_pos hk, numbered k (Nat.le_of_eq hk.symm)]
      exact iff_of_true rfl hk
    · rw [if_neg hk, Option.or_none]
      exact iff_of_false old hk
  flag := .inr ⟨hf, _, rfl⟩

theorem Occupied.eq_of_mem (h : Occupied flying s) (hn : n ∈ flying) : flying = [n] := by
  rcases h.flag with ⟨_, rfl⟩ | ⟨_, k, rfl⟩
  · cases hn
  · rw [List.mem_singleton.mp hn]

theorem Occupied.filter_eq_nil (h : Occupied flying s) (hn : n ∈ flying) :
    flying.filter (· != n) = [] := by
  rw [h.eq_of_mem hn]
  simp

theorem Occupied.ended (h : Occupied flying s) (asked : s.exchange? n = some .execution) {f : Form}
    (hf : f.isExecuting = false) : Occupied (flying.filter (· != n)) (s.settled n f) := by
  have hn := (h.exchange_iff n).mp asked
  rw [h.filter_eq_nil hn]
  refine ⟨?_, .inl ⟨hf, rfl⟩⟩
  intro k
  show (s.without n).exchange? k = _ ↔ _
  rw [exchange?_without]
  refine iff_of_false ?_ List.not_mem_nil
  split
  · nofun
  · next hk =>
    intro hx
    have hk' := (h.exchange_iff k).mp hx
    rw [h.eq_of_mem hn, List.mem_singleton] at hk'
    exact hk hk'

theorem isExecuting_of_no_obstacle {f : Form} (free : f.executionObstacle? = none) :
    f.entity ≠ none ∧ f.isExecuting = false := by
  unfold Form.executionObstacle? at free
  split at free
  · cases free
  · next hentity =>
    split at free
    · cases free
    · next hflag => exact ⟨hentity, Bool.eq_false_iff.mpr hflag⟩

theorem Move.occupied (m : Move setup s e r s') (numbered : s.Numbered)
    (h : Occupied flying s) : Occupied (Step.inFlightAfter flying (e, r)) s' := by
  have other : ∀ {n x}, s.exchange? n = some x → x ≠ .execution →
      s.exchange? n ≠ some .execution := fun hx hne hx' => hne (Option.some.inj (hx.symm.trans hx'))
  cases m with
  | edited made =>
    have kept := congrArg Form.isExecuting (Edit.apply_frame made)
    exact h.withForm kept
  | turned => exact h.withForm rfl
  | deselected _ => exact h.withForm rfl
  | selecting _ => exact h.awaiting nofun rfl
  | executing free =>
    -- the flag is down, so this execution is the only one
    have hno := h.free (isExecuting_of_no_obstacle free).2
    subst hno
    exact h.begun numbered rfl
  | analysing _ => exact h.awaiting nofun rfl
  | loadingTips _ => exact h.awaiting nofun rfl
  | superseded asked _ => exact h.settled (other asked nofun) rfl
  | loaded asked _ => exact h.settled (other asked nofun) rfl
  | unloaded asked _ => exact h.settled (other asked nofun) rfl
  | executed asked => exact h.ended asked rfl
  | failed asked => exact h.ended asked rfl
  | overtaken asked _ => exact h.settled (other asked nofun) rfl
  | appraised asked _ _ => exact h.settled (other asked nofun) rfl
  | tipsLoaded asked =>
    rw [Form.settleTips_frame]
    exact h.settled (other asked nofun) rfl
  | stopped asked => exact h.ended asked rfl
  | forgotten asked hne =>
    rename_i n x
    -- giving up an exchange of another kind takes no execution out of the list
    have hn := other asked hne
    have hkept : flying.filter (· != n) = flying := by
      rw [List.filter_eq_self]
      intro k hk
      have hx := (h.exchange_iff k).mpr hk
      rw [bne_iff_ne]
      intro hkn
      exact hn (hkn ▸ hx)
    show Occupied (flying.filter (· != n)) _
    rw [hkept]
    exact h.settled hn rfl
  | _ => exact h

theorem occupied_after (setup : Setup) (es : List Event) :
    Occupied (inFlight ((fresh setup).history setup es)) ((fresh setup).after setup es) :=
  history_induction setup (P := fun h s => Occupied (inFlight h) s) (occupied_fresh setup)
    (fun hl h m => by
      rw [inFlight_concat]
      exact m.occupied hl.numbered h) es

/-! ### the end of an execution -/

theorem Move.endsExecution (m : Move setup s e r s') (asked : s.exchange? n = some .execution)
    (ends : e.EndsExecution n) :
    Step.inFlightAfter flying (e, r) = flying.filter (· != n) := by
  cases m with
  | executed _ => cases ends; rfl
  | failed _ => cases ends; rfl
  | stopped _ => cases ends; rfl
  | unanswered unfit =>
    rename_i k a
    cases a with
    | rows a =>
      cases ends
      rw [asked] at unfit
      cases unfit
    | _ => exact ends.elim
  | forgotten asked' other =>
    cases ends
    exact absurd (Option.some.inj (asked'.symm.trans asked)) other
  | undropped unknown =>
    cases ends
    rw [asked] at unknown
    cases unknown
  | _ => exact ends.elim

theorem answer_rows (asked : s.exchange? n = some .execution) (rows : ResultSet) :
    (s.step setup (.answer n (.rows (.ok rows)))).1 = .executed (.ok rows) := by
  show (s.answer setup n (.rows (.ok rows))).1 = _
  rw [answer, asked]
  rfl

theorem Move.results_of_executed {rows : ResultSet} (m : Move setup s e (.executed (.ok rows)) s') :
    s'.form.results = rows := by
  cases m with
  | executed _ => rfl

/-! ### the start of an execution -/

theorem step_execute (h : Occupied flying s) :
    s.step setup .execute =
      if s.form.entity = none then (.executed (.error Form.nothingToExecute), s)
      else if flying ≠ [] then (.executed (.error .busy), s)
      else (.awaits s.nextNumber (.rowsOf s.form.text),
        s.awaiting s.form.beginExecution .execution) := by
  show s.execute = _
  by_cases hentity : s.form.entity = none
  · have obstacle : s.form.executionObstacle? = some Form.nothingToExecute := if_pos hentity
    rw [if_pos hentity, execute, obstacle]
  · rw [if_neg hentity, execute]
    rcases h.flag with ⟨hf, rfl⟩ | ⟨hf, n, rfl⟩
    · have free : s.form.executionObstacle? = none := by
        rw [Form.executionObstacle?, if_neg hentity, hf]
        rfl
      rw [if_neg (not_not_intro rfl), free]
      rfl
    · have obstacle : s.form.executionObstacle? = some .busy := by
        rw [Form.executionObstacle?, if_neg hentity, hf]
        rfl
      rw [if_pos (List.cons_ne_nil n []), obstacle]

theorem inFlightAfter_nil {st : Step} (h : st.1 ≠ .execute) : st.inFlightAfter [] = [] := by
  obtain ⟨e, r⟩ := st
  cases e with
  | execute => exact absurd rfl h
  | answer n a => cases r <;> rfl
  | drop n => cases r <;> rfl
  | _ => rfl

/-- no execution is in flight as long as none begins -/
theorem inFlight_append_of_idle {h later : List Step} (idle : inFlight h = [])
    (hno : ∀ st ∈ later, st.1 ≠ .execute) : inFlight (h ++ later) = [] := by
  rw [inFlight, List.foldl_append]
  show later.foldl Step.inFlightAfter (inFlight h) = []
  rw [idle]
  clear idle
  induction later with
  | nil => rfl
  | cons st later ih =>
    rw [List.foldl_cons, inFlightAfter_nil (hno st List.mem_cons_self)]
    exact ih fun st' hst => hno st' (List.mem_cons_of_mem _ hst)

/-- behind the end of the execution in flight none is in flight until the next one begins -/
theorem inFlight_after_end (setup : Setup) (es : List Event) {later : List Event}
    (hn : n ∈ inFlight ((fresh setup).history setup es)) (ends : e.EndsExecution n)
    (hno : .execute ∉ later) : inFlight ((fresh setup).history setup (es ++ e :: later)) = [] := by
  have h := occupied_after setup es
  have asked := (h.exchange_iff n).mpr hn
  have m := step_move setup ((fresh setup).after setup es) e
  have idle : inFlight ((fresh setup).history setup (es ++ [e])) = [] := by
    rw [history_concat, inFlight_concat, m.endsExecution asked ends]
    exact h.filter_eq_nil hn
  rw [List.append_cons, history_append]
  apply inFlight_append_of_idle idle
  intro st hst heq
  apply hno
  rw [← heq, ← map_fst_history setup _ later]
  exact List.mem_map_of_mem hst

/-- **Executions go one at a time.**  The flag is up if and only if exactly one execution is in
flight; a further one is turned away without a trace, and one that ends makes room for the next,
whatever came in between.  Rows that are handed on are the results shown. -/
theorem execution_after (setup : Setup) (es : List Event) :
    let s := (fresh setup).after setup es
    let flying := inFlight ((fresh setup).history setup es)
    (s.form.isExecuting = true ↔ ∃ n, flying = [n]) ∧ flying.length ≤ 1 ∧
      (∀ n, s.exchange? n = some .execution ↔ n ∈ flying) ∧
      s.step setup .execute =
        (if s.form.entity = none then (.executed (.error Form.nothingToExecute), s)
        else if flying ≠ [] then (.executed (.error .busy), s)
        else (.awaits s.nextNumber (.rowsOf s.form.text),
          s.awaiting s.form.beginExecution .execution)) ∧
      (∀ n ∈ flying, ∀ (e : Event) (later : List Event), e.EndsExecution n → .execute ∉ later →
        let s' := (fresh setup).after setup (es ++ e :: later)
        s'.form.entity ≠ none →
          s'.step setup .execute = (.awaits s'.nextNumber (.rowsOf s'.form.text),
            s'.awaiting s'.form.beginExecution .execution)) ∧
      (∀ n ∈ flying, ∀ rows,
        (s.step setup (.answer n (.rows (.ok rows)))).1 = .executed (.ok rows)) ∧
      ∀ e rows, (s.step setup e).1 = .executed (.ok rows) →
        (s.step setup e).2.form.results = rows := by
  intro s flying
  have h : Occupied flying s := occupied_after setup es
  refine ⟨h.isExecuting_iff, h.length_le, h.exchange_iff, step_execute h, ?_, ?_, ?_⟩
  · intro n hn e later ends hno s' hentity
    have idle : inFlight ((fresh setup).history setup (es ++ e :: later)) = [] :=
      inFlight_after_end setup es hn ends hno
    have h' : Occupied _ s' := occupied_after setup (es ++ e :: later)
    rw [step_execute h', if_neg hentity, idle, if_neg (not_not_intro rfl)]
  · intro n hn rows
    exact answer_rows ((h.exchange_iff n).mpr hn) rows
  · intro e rows hr
    have m := step_move setup s e
    rw [hr] at m
    exact m.results_of_executed

/-- an execution given up, then another entity; and one that succeeds -/
theorem execution_after_drop :
    let setup : Setup := ⟨.standard, none⟩
    let es : List Event := [.select (some "Account"), .execute]
    let s := (fresh setup).after setup es
    let s' := (fresh setup).after setup (es ++ .drop 1 :: [.select (some "Contact")])
    let rows : ResultSet := ⟨[.ofList [("Name", .string "Acme")]], 1⟩
    1 ∈ inFlight ((fresh setup).history setup es) ∧ (Event.drop 1).EndsExecution 1 ∧
      .execute ∉ [Event.select (some "Contact")] ∧ s'.form.entity ≠ none ∧
      (s'.step setup .execute).1 = .awaits 3 (.rowsOf "SELECT Id FROM Contact LIMIT 10") ∧
      (s.step setup (.answer 1 (.rows (.ok rows)))).2.form.results = rows := by
  intro setup es s s' rows
  have law := execution_after setup es
  have flying : 1 ∈ inFlight ((fresh setup).history setup es) := List.mem_singleton_self 1
  have later : .execute ∉ [Event.select (some "Contact")] := by simp
  have selected : s'.form.entity ≠ none := by decide
  have again := law.2.2.2.2.1 1 flying (.drop 1) _ rfl later selected
  have answered := law.2.2.2.2.2.1 1 flying rows
  exact ⟨flying, rfl, later, selected, congrArg Prod.fst again,
    law.2.2.2.2.2.2 _ rows answered⟩

end Session

end SoqlForm
