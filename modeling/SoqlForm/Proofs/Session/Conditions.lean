import SoqlForm.Proofs.Session.Controls

/-!
# Controls and values of the conditions

A condition gets its control when its field is set, and again when the fields of the entity come; it
loses its value when its field is set.  Neither is undone by what happens to the conditions beside
it.

* `Filter.IsEmptied`    the condition with an id has no value, if it is there;
* `Performs.isEmptied`, `Performs.isEmptied_of_field`   how long that lasts, and how it begins;
* `conditions_after`    controls and values on every run.
-/

namespace SoqlForm

namespace Filter

def IsEmptied (id : Nat) (f : Filter) : Prop := ∀ c ∈ f.conditions, c.id = id → c.value = ""

variable {f g : Filter} {o : Operation} {result : Except Failure Outcome} {id position : Nat}
  {c : Condition}

theorem mem_markFirst {cs : List Condition} (hc : c ∈ markFirst cs) :
    ∃ d ∈ cs, ∃ b, c = d.marked b := by
  obtain ⟨i, hi⟩ := List.getElem?_of_mem hc
  rw [getElem?_markFirst] at hi
  obtain ⟨d, hd, rfl⟩ := Option.map_eq_some_iff.mp hi
  exact ⟨d, List.mem_of_getElem? hd, _, rfl⟩

theorem isEmptied_revise {cs : List Condition} (f : Filter)
    (h : ∀ c ∈ cs, c.id = id → c.value = "") : (f.revise cs).IsEmptied id := by
  intro c hc hid
  obtain ⟨d, hd, b, rfl⟩ := mem_markFirst hc
  exact h d hd hid

theorem value_retype (catalog : Catalog) (c : Condition) : (c.retype catalog).value = c.value := by
  unfold Condition.retype
  split <;> rfl

/-- a condition without a value is given one by nothing but a change of its value -/
theorem Performs.isEmptied (p : Performs f o result g) (h : f.IsEmptied id)
    (hno : ∀ text, f.changeOf? id o ≠ some (.value text)) : g.IsEmptied id := by
  cases p with
  | appended =>
    apply isEmptied_revise
    intro c hc hid
    rcases List.mem_append.mp hc with hc | hc
    · exact h c hc hid
    · rw [List.mem_singleton.mp hc]
      rfl
  | removed stands =>
    apply isEmptied_revise
    intro c hc
    exact h c (List.mem_of_mem_eraseIdx hc)
  | updated stands =>
    rename_i catalog position change d
    apply isEmptied_revise
    intro c hc hid
    rcases List.mem_or_eq_of_mem_set hc with hc | rfl
    · exact h c hc hid
    · rw [id_change] at hid
      have hthere : f.ids[position]? = some id := by
        rw [ids, List.getElem?_map, stands, Option.map_some, hid]
      have hempty := h d (List.mem_of_getElem? stands) hid
      cases change with
      | value text => exact absurd (if_pos hthere) (hno text)
      | field name => rfl
      | _ => exact hempty
  | retyped =>
    rename_i catalog
    rcases f.retype_cases catalog with ⟨_, same⟩ | revised
    · rw [same]
      exact h
    · rw [revised]
      apply isEmptied_revise
      intro c hc hid
      obtain ⟨d, hd, rfl⟩ := List.mem_map.mp hc
      rw [id_retype] at hid
      rw [value_retype]
      exact h d hd hid
  | cleared =>
    intro c hc
    rw [conditions_clear] at hc
    cases hc
  | _ => exact h

/-- a change of the field takes the value away -/
theorem Performs.isEmptied_of_field (p : Performs f o result g) (h : f.Orderly) {name : String}
    (hchange : f.changeOf? id o = some (.field name)) : g.IsEmptied id := by
  cases p with
  | updated stands =>
    rename_i catalog position change d
    obtain ⟨hthere, hfield⟩ := Option.ite_none_right_eq_some.mp hchange
    cases hfield
    have hd : d.id = id := by
      rw [ids, List.getElem?_map, stands] at hthere
      exact Option.some.inj hthere
    apply isEmptied_revise
    intro c hc hid
    obtain ⟨i, hi⟩ := List.getElem?_of_mem hc
    rw [List.getElem?_set] at hi
    split at hi
    · split at hi
      · cases hi
        rfl
      · cases hi
    · next hne =>
      -- another position has another id
      have hi' := (h.positionOf? id).mpr ⟨c, hi, hid⟩
      have hp := (h.positionOf? id).mpr ⟨d, stands, hd⟩
      exact absurd (Option.some.inj (hp.symm.trans hi')) hne
  | notUpdated missing =>
    obtain ⟨hthere, _⟩ := Option.ite_none_right_eq_some.mp hchange
    rw [ids, List.getElem?_map, missing] at hthere
    cases hthere
  | _ => cases hchange

end Filter

namespace Session

variable {setup : Setup} {s s' : Session} {e : Event} {r : Response} {id : Nat}

theorem Move.isEmptied (m : Move setup s e r s') (h : s.form.filter.IsEmptied id)
    (hno : ∀ text, s.changeOf? id e ≠ some (.value text)) : s'.form.filter.IsEmptied id := by
  obtain ⟨o?, filter, hchange⟩ := m.operation
  rw [filter]
  cases o? with
  | none => exact h
  | some o =>
    refine (Filter.performs_perform s.form.filter o).isEmptied h ?_
    intro text
    rw [show s.form.filter.changeOf? id o = s.changeOf? id e from hchange id]
    exact hno text

theorem Move.isEmptied_of_field (m : Move setup s e r s') (h : s.form.filter.Orderly)
    {name : String} (hfield : s.changeOf? id e = some (.field name)) :
    s'.form.filter.IsEmptied id := by
  obtain ⟨o?, filter, hchange⟩ := m.operation
  rw [filter]
  cases o? with
  | none => cases (hchange id).trans hfield
  | some o =>
    exact (Filter.performs_perform s.form.filter o).isEmptied_of_field h ((hchange id).trans hfield)

theorem isEmptied_after (setup : Setup) (h : s.form.filter.IsEmptied id) (es : List Event)
    (hno : ∀ earlier e later text, es = earlier ++ e :: later →
      (s.after setup earlier).changeOf? id e ≠ some (.value text)) :
    (s.after setup es).form.filter.IsEmptied id := by
  induction es generalizing s with
  | nil => exact h
  | cons e es ih =>
    have first := (step_move setup s e).isEmptied h fun text => hno [] e es text rfl
    refine ih first ?_
    rintro earlier e' later text rfl
    exact hno (e :: earlier) e' later text rfl

/-- **Controls and values on every run.**  A condition with a field has the control that the
catalog gives to it, whenever the field was set and whenever the fields of the entity came.  A
condition whose field was changed has no value until its value is changed. -/
theorem conditions_after (setup : Setup) (es : List Event) :
    let s := (fresh setup).after setup es
    ∀ c ∈ s.form.filter.conditions,
      (c.field ≠ "" → c.control = .ofField? (s.form.catalog.find? c.field)) ∧
      ∀ before e since name, es = before ++ e :: since →
        ((fresh setup).after setup before).changeOf? c.id e = some (.field name) →
        (∀ earlier e' later text, since = earlier ++ e' :: later →
          ((fresh setup).after setup (before ++ e :: earlier)).changeOf? c.id e'
            ≠ some (.value text)) →
        c.value = "" := by
  intro s c hc
  refine ⟨(isTyped_after setup es).control hc, ?_⟩
  rintro before e since name rfl hname hno
  have m := step_move setup ((fresh setup).after setup before) e
  have emptied := m.isEmptied_of_field (orderly_after setup before) hname
  have still := isEmptied_after setup emptied since fun earlier e' later text heq => by
    have hno' := hno earlier e' later text heq
    rwa [after_append, after_cons] at hno'
  refine still c ?_ rfl
  have hs : s = _ := after_append setup _ before (e :: since)
  rw [hs, after_cons] at hc
  exact hc

/-- the field of a condition is changed behind its value, another condition in front of it is taken
away, and the fields come last -/
theorem conditions_after_late_fields :
    let setup : Setup := ⟨.standard, none⟩
    let before : List Event := [.select (some "Account"), .edit .addCondition, .edit .addCondition,
      .edit (.updateCondition 1 (.field "Name")), .edit (.updateCondition 1 (.value "Acme"))]
    let change : Event := .edit (.updateCondition 1 (.field "Employees"))
    let since : List Event := [.edit (.removeCondition 0),
      .answer 0 (.fields (.ok ⟨none, [.plain "Employees" .number]⟩))]
    let es := before ++ change :: since
    let c : Condition := ⟨2, "Employees", .equal, "", .and, true, .number⟩
    c ∈ ((fresh setup).after setup es).form.filter.conditions ∧ c.field ≠ "" ∧
      c.control = .ofField? (((fresh setup).after setup es).form.catalog.find? c.field) ∧
      ((fresh setup).after setup before).changeOf? c.id change = some (.field "Employees") ∧
      (∀ earlier e later text, since = earlier ++ e :: later →
        ((fresh setup).after setup (before ++ change :: earlier)).changeOf? c.id e
          ≠ some (.value text)) ∧
      c.value = "" := by
  intro setup before change since es c
  have conditions : ((fresh setup).after setup es).form.filter.conditions = [c] := by decide +kernel
  have hc : c ∈ ((fresh setup).after setup es).form.filter.conditions := by
    rw [conditions]
    exact List.mem_singleton_self c
  have hfield : c.field ≠ "" := by decide
  have hchange : ((fresh setup).after setup before).changeOf? c.id change
      = some (.field "Employees") := rfl
  have hno : ∀ earlier e later text, since = earlier ++ e :: later →
      ((fresh setup).after setup (before ++ change :: earlier)).changeOf? c.id e
        ≠ some (.value text) := by
    intro earlier e later text heq
    have he : e ∈ since := by
      rw [heq]
      exact List.mem_append_right _ List.mem_cons_self
    rcases List.mem_cons.mp he with rfl | he
    · nofun
    · rw [List.mem_singleton.mp he]
      nofun
  obtain ⟨control, emptied⟩ := conditions_after setup es c hc
  exact ⟨hc, hfield, control hfield, hchange, hno, emptied before change since _ rfl hchange hno⟩

end Session

end SoqlForm
