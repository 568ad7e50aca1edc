import SoqlForm.Proofs.Session.History

/-!
# Whether the fields are awaited

A form says whether the fields of its entity are still to come.  The flag goes up with the
selection of an entity and down with the answer of the metadata source; that the exchange is given
up does not lower it.

* `Move.fetch_fate`     what becomes of the last selection's exchange in a move;
* `Fetching`            flag and exchanges of a session agree with its last selection;
* `Move.fetching`       a move keeps them so;
* `pending_after`       what the flag says on every run;
* `pending_after_drop`  a run on which it says that fields are awaited that nobody will bring.
-/

namespace SoqlForm

namespace Session

variable {setup : Setup} {s s' : Session} {e : Event} {r : Response} {n k : Nat} {h : List Step}
  {fetch? : Option Nat}

theorem exchange?_settled_self (s : Session) (n : Nat) (f : Form) :
    (s.settled n f).exchange? n = none := by
  show (s.without n).exchange? n = none
  rw [exchange?_without, if_pos rfl]

theorem exchange?_settled_of_ne (hk : n ≠ k) (f : Form) :
    (s.settled k f).exchange? n = s.exchange? n := by
  show (s.without k).exchange? n = _
  rw [exchange?_without, if_neg hk]

theorem exchange?_awaiting_of_lt (hn : n < s.nextNumber) (f : Form) (x : Exchange) :
    (s.awaiting f x).exchange? n = s.exchange? n := by
  rw [exchange?_awaiting, if_neg (Nat.ne_of_lt hn), Option.or_none]

/-! ### the exchange of the last selection -/

/-- whether the exchange under a number, while it is open, is that of a selection -/
def FetchesUnder (s : Session) (n : Nat) : Prop :=
  ∀ x, s.exchange? n = some x → ∃ t, x = .selection t

theorem FetchesUnder.ne (hf : s.FetchesUnder n) {x : Exchange} (asked : s.exchange? k = some x)
    (other : ∀ t, x ≠ .selection t) : n ≠ k := by
  rintro rfl
  obtain ⟨t, rfl⟩ := hf x asked
  exact other t rfl

/-- unless an entity is selected in a move, the exchange of the last selection stays as it is, and
the flag with it; or it is given up, and the flag stays; or the fields come -/
theorem Move.fetch_fate (m : Move setup s e r s') (hl : Linked fetch? s) (hf : s.FetchesUnder n)
    (hn : fetch? = some n) (hs : Step.selects (e, r) = false) :
    ((e, r) ≠ (.drop n, .dropped) ∧ s'.exchange? n = s.exchange? n ∧
        s'.form.isPending = s.form.isPending) ∨
      ((e, r) = (.drop n, .dropped) ∧ s.exchange? n ≠ none ∧
        s'.form.isPending = s.form.isPending) ∨
      ((e, r) ≠ (.drop n, .dropped) ∧ s.exchange? n ≠ none ∧ s'.exchange? n = none ∧
        s'.form.isPending = false) := by
  have hlt : n < s.nextNumber := hl.fetch_lt hn
  cases m with
  | edited made =>
    have kept := congrArg Form.isPending (Edit.apply_frame made)
    exact .inl ⟨nofun, rfl, kept⟩
  | deselected _ => cases hs
  | selecting _ => cases hs
  | executing _ => exact .inl ⟨nofun, exchange?_awaiting_of_lt hlt _ _, rfl⟩
  | analysing _ => exact .inl ⟨nofun, exchange?_awaiting_of_lt hlt _ _, rfl⟩
  | loadingTips _ => exact .inl ⟨nofun, exchange?_awaiting_of_lt hlt _ _, rfl⟩
  | superseded asked late =>
    rename_i k t a
    have hk : n ≠ k := by
      rintro rfl
      exact late ((hl.latest_iff asked).mpr hn)
    exact .inl ⟨nofun, exchange?_settled_of_ne hk s.form, rfl⟩
  -- an answer that counts comes to this very exchange
  | loaded asked latest =>
    cases hn.symm.trans ((hl.latest_iff asked).mp latest)
    exact .inr (.inr ⟨nofun, by rw [asked]; nofun, exchange?_settled_self s n _, rfl⟩)
  | unloaded asked latest =>
    cases hn.symm.trans ((hl.latest_iff asked).mp latest)
    exact .inr (.inr ⟨nofun, by rw [asked]; nofun, exchange?_settled_self s n _, rfl⟩)
  | executed asked => exact .inl ⟨nofun, exchange?_settled_of_ne (hf.ne asked nofun) _, rfl⟩
  | failed asked => exact .inl ⟨nofun, exchange?_settled_of_ne (hf.ne asked nofun) _, rfl⟩
  | overtaken asked _ =>
    exact .inl ⟨nofun, exchange?_settled_of_ne (hf.ne asked nofun) s.form, rfl⟩
  | appraised asked _ _ => exact .inl ⟨nofun, exchange?_settled_of_ne (hf.ne asked nofun) _, rfl⟩
  | tipsLoaded asked =>
    rename_i k a
    have kept := congrArg Sheet.isPending (Form.sheet_settleTips s.form a)
    exact .inl ⟨nofun, exchange?_settled_of_ne (hf.ne asked nofun) _, kept⟩
  | stopped asked =>
    have hk := hf.ne asked nofun
    exact .inl ⟨by rintro ⟨⟩; exact hk rfl, exchange?_settled_of_ne hk _, rfl⟩
  | forgotten asked other =>
    rename_i k x
    by_cases hk : n = k
    · subst hk
      exact .inr (.inl ⟨rfl, by rw [asked]; nofun, rfl⟩)
    · exact .inl ⟨by rintro ⟨⟩; exact hk rfl, exchange?_settled_of_ne hk s.form, rfl⟩
  | _ => exact .inl ⟨nofun, rfl, rfl⟩

/-- while the last selection has not asked for fields, the flag stays -/
theorem Move.isPending_of_unasked (m : Move setup s e r s') (hl : Linked none s)
    (hs : Step.selects (e, r) = false) : s'.form.isPending = s.form.isPending := by
  cases m with
  | edited made =>
    have kept := congrArg Form.isPending (Edit.apply_frame made)
    exact kept
  | deselected _ => cases hs
  | selecting _ => cases hs
  | loaded asked latest => cases (hl.latest_iff asked).mp latest
  | unloaded asked latest => cases (hl.latest_iff asked).mp latest
  | tipsLoaded _ =>
    rename_i a _
    exact congrArg Sheet.isPending (Form.sheet_settleTips s.form a)
  | _ => rfl

/-! ### the flag along a run -/

/-- the flag is up if the last selection has asked for fields and its exchange is open or was given
up -/
structure Fetching (h : List Step) (s : Session) : Prop where
  fetches : ∀ {n}, latestFetch? h = some n → s.FetchesUnder n
  ended : ∀ {n}, (.drop n, .dropped) ∈ h → n < s.nextNumber ∧ s.exchange? n = none
  idle : latestFetch? h = none → s.form.isPending = false
  flag : ∀ {n}, latestFetch? h = some n →
    (s.form.isPending = true ↔ s.exchange? n ≠ none ∨ (.drop n, .dropped) ∈ h)

theorem fetching_fresh (setup : Setup) : Fetching [] (fresh setup) where
  fetches := nofun
  ended := nofun
  idle _ := rfl
  flag := nofun

theorem Move.fetchesUnder (m : Move setup s e r s') (hl : Linked fetch? s)
    (hf : ∀ {n}, fetch? = some n → s.FetchesUnder n)
    (hn : Step.fetchAfter fetch? (e, r) = some n) : s'.FetchesUnder n := by
  intro x hx
  rcases m.fetch_cases hn with ⟨_, hn⟩ | ⟨hs, hnew, _⟩
  · rcases m.exchange?_of_move hx with hx | ⟨hnew, _⟩
    · exact hf hn x hx
    · have hlt := hl.fetch_lt hn
      omega
  · rcases m.exchange?_of_move hx with hx | ⟨_, q, hr, hq⟩
    · have hlt := hl.numbered.lt hx
      omega
    · -- the one question of a selection is for fields
      cases e with
      | select name =>
        subst hr
        obtain ⟨entity, rfl⟩ := m.select_asks
        exact ⟨_, hq⟩
      | _ => cases hs

theorem Move.ended_of_dropped (m : Move setup s e r s') (hl : Linked fetch? s)
    (ho : ∀ {n}, (.drop n, .dropped) ∈ h → n < s.nextNumber ∧ s.exchange? n = none)
    (hn : (.drop n, .dropped) ∈ h ++ [(e, r)]) : n < s'.nextNumber ∧ s'.exchange? n = none := by
  rcases List.mem_append.mp hn with hn | hn
  · obtain ⟨hlt, hover⟩ := ho hn
    refine ⟨Nat.lt_of_lt_of_le hlt m.nextNumber_le, ?_⟩
    rw [Option.eq_none_iff_forall_ne_some]
    intro x hx
    rcases m.exchange?_of_move hx with hx | ⟨hnew, _⟩
    · rw [hover] at hx
      cases hx
    · omega
  · cases List.mem_singleton.mp hn
    cases m with
    | stopped asked => exact ⟨hl.numbered.lt asked, exchange?_settled_self s n _⟩
    | forgotten asked _ => exact ⟨hl.numbered.lt asked, exchange?_settled_self s n s.form⟩

/-- the flag behind a selection: it is up if fields have been asked for -/
theorem Move.flag_of_selects (m : Move setup s e r s') (hl : Linked fetch? s)
    (hs : Step.selects (e, r) = true) :
    Step.fetchAfter fetch? (e, r) = none ∧ s'.form.isPending = false ∨
      ∃ n, Step.fetchAfter fetch? (e, r) = some n ∧ s'.form.isPending = true ∧
        s'.exchange? n ≠ none := by
  cases m with
  | deselected _ => exact .inl ⟨rfl, rfl⟩
  | selecting _ =>
    refine .inr ⟨s.nextNumber, rfl, rfl, ?_⟩
    rw [exchange?_awaiting, hl.numbered _ (Nat.le_refl _), if_pos rfl]
    nofun
  | _ => cases hs

theorem Move.fetching (m : Move setup s e r s') (hl : Linked (latestFetch? h) s)
    (p : Fetching h s) : Fetching (h ++ [(e, r)]) s' := by
  refine ⟨fun hn => m.fetchesUnder hl p.fetches (latestFetch?_concat h _ ▸ hn),
    fun hn => m.ended_of_dropped hl p.ended hn, ?_, ?_⟩
  · intro hn
    rw [latestFetch?_concat] at hn
    cases hs : Step.selects (e, r) with
    | true =>
      rcases m.flag_of_selects hl hs with ⟨_, down⟩ | ⟨n, hsome, _⟩
      · exact down
      · rw [hn] at hsome
        cases hsome
    | false =>
      rw [Step.fetchAfter_of_not_selects hs] at hn
      rw [m.isPending_of_unasked (hn ▸ hl) hs, p.idle hn]
  · intro n hn
    rw [latestFetch?_concat] at hn
    rw [List.mem_append, List.mem_singleton]
    cases hs : Step.selects (e, r) with
    | true =>
      rcases m.flag_of_selects hl hs with ⟨hnone, _⟩ | ⟨k, hsome, up, opened⟩
      · rw [hn] at hnone
        cases hnone
      · cases hn.symm.trans hsome
        exact iff_of_true up (.inl opened)
    | false =>
      rw [Step.fetchAfter_of_not_selects hs] at hn
      rcases m.fetch_fate hl (p.fetches hn) hn hs with
        ⟨hne, hkept, hflag⟩ | ⟨heq, hopen, hflag⟩ | ⟨hne, hopen, hover, down⟩
      · rw [hflag, hkept, p.flag hn, or_iff_left (Ne.symm hne)]
      · rw [hflag]
        exact iff_of_true ((p.flag hn).mpr (.inl hopen)) (.inr (.inr heq.symm))
      · -- the exchange was open, so it had not been given up before
        have kept : (.drop n, .dropped) ∉ h := fun hdrop => hopen (p.ended hdrop).2
        rw [down, hover]
        refine iff_of_false Bool.false_ne_true ?_
        rintro (hno | hdrop | heq)
        · exact hno rfl
        · exact kept hdrop
        · exact hne heq.symm

theorem fetching_after (setup : Setup) (es : List Event) :
    Fetching ((fresh setup).history setup es) ((fresh setup).after setup es) :=
  history_induction setup (P := Fetching) (fetching_fresh setup)
    (fun hl p m => m.fetching hl p) es

/-- **Fields are said to be awaited if and only if the last selection has asked for them and its
exchange is open, or has been given up.**  So the flag is right unless the user gives that exchange
up: an answer lowers it, whether the fields come or not, and so does the end of the selection. -/
theorem pending_after (setup : Setup) (es : List Event) :
    let s := (fresh setup).after setup es
    let h := (fresh setup).history setup es
    s.form.isPending = true ↔
      ∃ n, latestFetch? h = some n ∧ (s.exchange? n ≠ none ∨ (.drop n, .dropped) ∈ h) := by
  intro s h
  have p : Fetching h s := fetching_after setup es
  constructor
  · intro up
    cases hn : latestFetch? h with
    | none =>
      rw [p.idle hn] at up
      cases up
    | some n => exact ⟨n, rfl, (p.flag hn).mp up⟩
  · rintro ⟨n, hn, hopen⟩
    exact (p.flag hn).mpr hopen

/-- once the exchange of the selection is given up, nobody will bring the fields, and yet they are
said to be awaited -/
theorem pending_after_drop :
    ¬ ∀ (setup : Setup) (es : List Event),
      let s := (fresh setup).after setup es
      s.form.isPending = true ↔
        ∃ n, latestFetch? ((fresh setup).history setup es) = some n ∧ s.exchange? n ≠ none := by
  intro law
  let es : List Event := [.select (some "Account"), .drop 0]
  obtain ⟨n, hn, hopen⟩ := (law ⟨.standard, none⟩ es).mp rfl
  cases (Option.some.inj hn : 0 = n)
  exact hopen rfl

end Session

end SoqlForm
