import SoqlForm.Proofs.Filter.Run

/-!
# The controls of a filter

The control of a condition is kept with the condition.  When the catalog has changed every control
is chosen anew, from this catalog alone: it does not matter which controls were there before, and
nothing but the controls changes.

* `isTyped_retype`, `retype_of_isTyped`   so it is when they are chosen anew, and choosing them once
                       more changes nothing, not even the revision;
* `revision_retype`    the revision tells whether any control has changed;
* `same_retype_retype`   only the catalog taken last counts;
* `controls_chosen_anew`   all of it together, on every run.
-/

namespace SoqlForm

theorem Condition.retype_eq_self {catalog : Catalog} {c : Condition}
    (h : (c.retype catalog).control = c.control) : c.retype catalog = c := by
  have only : c.retype catalog = { c with control := (c.retype catalog).control } := by
    unfold retype
    split <;> rfl
  rw [only, h]

namespace Filter

def controls (f : Filter) : List Control := f.conditions.map (·.control)

variable {f g : Filter} {catalog : Catalog}

theorem isTyped_of_no_conditions (h : f.conditions = []) : f.IsTyped catalog := by
  rw [IsTyped, h]
  rfl

theorem isTyped_retype (f : Filter) (catalog : Catalog) : (f.retype catalog).IsTyped catalog := by
  rcases f.retype_cases catalog with ⟨typed, same⟩ | revised
  · rw [same]
    exact typed
  · have twice : Condition.retype catalog ∘ Condition.retype catalog = Condition.retype catalog :=
      funext fun c => c.retype_retype catalog catalog
    rw [revised, IsTyped, conditions_revise, ← markFirst_map (Condition.retype_marked catalog),
      List.map_map, twice]

theorem retype_of_isTyped (h : f.IsTyped catalog) : f.retype catalog = f := if_pos h

theorem IsTyped.control (h : f.IsTyped catalog) {c : Condition} (hc : c ∈ f.conditions)
    (hfield : c.field ≠ "") : c.control = .ofField? (catalog.find? c.field) := by
  have typed : c.retype catalog = c :=
    List.map_inj_left.mp (h.trans (List.map_id' f.conditions).symm) c hc
  rw [Condition.retype, if_neg hfield] at typed
  exact (congrArg Condition.control typed).symm

theorem isTyped_iff_corresponds :
    f.IsTyped catalog ↔ f.Corresponds (Condition.retype catalog) (fun c => c) f := by
  constructor
  · intro h
    exact ⟨h.trans (List.map_id' f.conditions).symm, fun _ => Condition.retype_blank catalog _⟩
  · intro h
    exact h.conditions.trans (List.map_id' f.conditions)

/-! ### what choosing the controls anew changes -/

/-- a filter whose controls stay when they are chosen anew stays as a whole -/
theorem isTyped_of_controls (h : f.IsMarked)
    (same : (f.retype catalog).controls = f.controls) : f.IsTyped catalog := by
  rw [controls, controls, conditions_retype h, List.map_map, List.map_inj_left] at same
  rw [IsTyped]
  nth_rewrite 2 [← List.map_id' f.conditions]
  exact List.map_inj_left.mpr fun c hc => Condition.retype_eq_self (same c hc)

theorem revision_retype (h : f.IsMarked) (catalog : Catalog) :
    (f.retype catalog).revision =
      if (f.retype catalog).controls = f.controls then f.revision else f.revision + 1 := by
  split
  · next same => rw [retype_of_isTyped (isTyped_of_controls h same)]
  · next changed =>
    rcases f.retype_cases catalog with ⟨_, same⟩ | revised
    · exact absurd (congrArg controls same) changed
    · rw [revised, revision_revise]

theorem same_retype_retype (h : f.IsMarked) (a b : Catalog) :
    ((f.retype a).retype b).Same (f.retype b) := by
  have again : Condition.retype b ∘ Condition.retype a = Condition.retype b :=
    funext fun c => c.retype_retype a b
  constructor
  · rw [conditions_retype (isMarked_retype h a), conditions_retype h, conditions_retype h,
      List.map_map, again]
  · rw [lastId_retype, lastId_retype, lastId_retype]

/-- of several catalogs the last one counts -/
theorem same_foldl_retype (h : f.IsMarked) (catalogs : List Catalog) (last : Catalog) :
    ((catalogs.foldl retype f).retype last).Same (f.retype last) := by
  induction catalogs generalizing f with
  | nil => exact ⟨rfl, rfl⟩
  | cons catalog catalogs ih =>
    obtain ⟨conditions, lastId⟩ := ih (isMarked_retype h catalog)
    obtain ⟨conditions', lastId'⟩ := same_retype_retype h catalog last
    exact ⟨conditions.trans conditions', lastId.trans lastId'⟩

/-- **Choosing the controls anew.**  A condition with a field gets the control that the catalog
gives to the field, and nothing else changes.  The revision goes up by one if a control changes.
Choosing the controls once more changes nothing, and of several catalogs only the last counts. -/
theorem controls_chosen_anew (os : List Operation) (catalog : Catalog) :
    let f := empty.after os
    let g := f.retype catalog
    g.conditions = f.conditions.map (fun c =>
        if c.field = "" then c else { c with control := .ofField? (catalog.find? c.field) }) ∧
      g.lastId = f.lastId ∧
      g.revision = (if g.controls = f.controls then f.revision else f.revision + 1) ∧
      g.retype catalog = g ∧
      ∀ catalogs : List Catalog, ((catalogs.foldl retype f).retype catalog).Same g := by
  intro f g
  have marked : f.IsMarked := isMarked_after isMarked_empty os
  exact ⟨conditions_retype marked catalog, lastId_retype f catalog, revision_retype marked catalog,
    retype_of_isTyped (isTyped_retype f catalog),
    fun catalogs => same_foldl_retype marked catalogs catalog⟩

end Filter

end SoqlForm
