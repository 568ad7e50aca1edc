import SoqlForm.Filter
import Mathlib.Data.List.InsertIdx

/-!
# Marks and controls of a filter

Every edit of a filter marks its first condition anew.  A function on conditions that leaves the
marks alone may be applied before an edit or behind it, and choosing the controls from a catalog is
such a function.

* `markFirst_map`       a function that leaves the marks alone;
* `IsMarked`            the first condition is marked, and no other;
* `IsTyped`, `retype_cases`   every control is the one that a catalog gives; choosing the controls
                        anew leaves such a filter as it is, and revises any other;
* `remove_eq_ok`, `update_eq_ok`   what an edit that is made does to the conditions;
* `Condition.Carries`   two functions that agree behind a change when they agree before it;
* `Filter.Corresponds`  filters whose conditions agree by such functions, new ones included;
* `Corresponds.append`, `Corresponds.remove`, `Corresponds.update`   edits keep them so;
* `corresponds_retype`  a filter and the one with its controls chosen anew.
-/

namespace SoqlForm

namespace Condition

def marked (b : Bool) (c : Condition) : Condition := { c with isFirst := b }

variable {catalog : Catalog}

theorem retype_marked (catalog : Catalog) (b : Bool) (c : Condition) :
    (c.marked b).retype catalog = (c.retype catalog).marked b := by
  show (if c.field = "" then _ else _) = marked b (if c.field = "" then _ else _)
  split <;> rfl

theorem retype_blank (catalog : Catalog) (id : Nat) : (blank id).retype catalog = blank id :=
  if_pos rfl

/-- a field is set whatever the control is that was chosen before -/
theorem change_field_retype (catalog : Catalog) (c : Condition) (name : String) :
    (c.retype catalog).change catalog (.field name) = c.change catalog (.field name) := by
  unfold retype
  split <;> rfl

/-- a change that sets no field is made before the control is chosen, or behind it, with any two
catalogs -/
theorem retype_change_of_not_field {change : Change} (h : ∀ name, change ≠ .field name)
    (a b catalog : Catalog) (c : Condition) :
    (c.change a change).retype catalog = (c.retype catalog).change b change := by
  cases change with
  | field name => exact absurd rfl (h name)
  | _ =>
    show (if c.field = "" then _ else _) = Condition.change b (if c.field = "" then _ else _) _
    split <;> rfl

/-- a change made before the control is chosen from a catalog, or behind it; the catalog must not
know a field without a name, for which no control is chosen -/
theorem retype_change (unnamed : catalog.find? "" = none) (c : Condition) (change : Change) :
    (c.change .empty change).retype catalog = (c.retype catalog).change catalog change := by
  cases change with
  | field name =>
    rw [change_field_retype]
    by_cases hn : name = ""
    · subst hn
      have kept : (c.change .empty (.field "")).retype catalog = c.change .empty (.field "") :=
        if_pos rfl
      rw [kept, Condition.change, Condition.change, unnamed, Catalog.find?_empty]
    · exact if_neg hn
  | _ => exact retype_change_of_not_field (by rintro _ ⟨⟩) _ _ _ _

/-- two functions that leave the marks alone, and that agree on two conditions behind a change, made
with a catalog each, when they agree before it -/
structure Carries (k j : Condition → Condition) (a b : Catalog) : Prop where
  marked_left : ∀ m c, k (c.marked m) = (k c).marked m
  marked_right : ∀ m c, j (c.marked m) = (j c).marked m
  change : ∀ {c d}, k c = j d → ∀ change, k (c.change a change) = j (d.change b change)

theorem carries_self (catalog : Catalog) :
    Carries (fun c => c) (fun c => c) catalog catalog where
  marked_left _ _ := rfl
  marked_right _ _ := rfl
  change h _ := by rw [h]

/-- a condition and the one with its control chosen, when a change may be made before the control
is chosen or behind it -/
theorem carries_of_retype_change {a : Catalog} (commutes : ∀ c change,
      (Condition.change a c change).retype catalog = (c.retype catalog).change catalog change) :
    Carries (retype catalog) (fun c => c) a catalog where
  marked_left := retype_marked catalog
  marked_right _ _ := rfl
  change {c d} h change := by
    have hd : d = c.retype catalog := h.symm
    rw [commutes, hd]

theorem carries_retype (unnamed : catalog.find? "" = none) :
    Carries (retype catalog) (fun c => c) .empty catalog :=
  carries_of_retype_change (retype_change unnamed)

end Condition

/-! ### marks -/

theorem markFirst_cons (c : Condition) (cs : List Condition) :
    markFirst (c :: cs) = c.marked true :: cs.map (·.marked false) := rfl

theorem markFirst_map {g : Condition → Condition}
    (hg : ∀ b c, g (c.marked b) = (g c).marked b) (cs : List Condition) :
    markFirst (cs.map g) = (markFirst cs).map g := by
  cases cs with
  | nil => rfl
  | cons c cs =>
    have tail : (cs.map g).map (·.marked false) = (cs.map (·.marked false)).map g := by
      rw [List.map_map, List.map_map]
      apply List.map_congr_left
      intro c' _
      exact (hg false c').symm
    rw [List.map_cons, markFirst_cons, markFirst_cons, List.map_cons, hg, tail]

theorem markFirst_markFirst (cs : List Condition) : markFirst (markFirst cs) = markFirst cs := by
  cases cs with
  | nil => rfl
  | cons c cs =>
    rw [markFirst_cons, markFirst_cons, List.map_map]
    rfl

namespace Filter

/-- whether the first condition is marked, and no other -/
def IsMarked (f : Filter) : Prop := markFirst f.conditions = f.conditions

/-- whether two filters differ at most in their revision -/
def Same (f g : Filter) : Prop := f.conditions = g.conditions ∧ f.lastId = g.lastId

/-- whether every control is the one that a catalog gives to the field -/
def IsTyped (catalog : Catalog) (f : Filter) : Prop :=
  f.conditions.map (Condition.retype catalog) = f.conditions

variable {f g f' : Filter} {catalog : Catalog} {position : Nat} {c : Condition}

/-- a filter stays as it is when its controls do, and is revised otherwise -/
theorem retype_cases (f : Filter) (catalog : Catalog) :
    f.IsTyped catalog ∧ f.retype catalog = f ∨
      f.retype catalog = f.revise (f.conditions.map (Condition.retype catalog)) := by
  by_cases typed : f.IsTyped catalog
  · exact .inl ⟨typed, if_pos typed⟩
  · exact .inr (if_neg typed)

theorem isMarked_empty : IsMarked empty := rfl

theorem isMarked_revise (f : Filter) (cs : List Condition) : (f.revise cs).IsMarked :=
  markFirst_markFirst cs

theorem isMarked_clear (h : f.IsMarked) : f.clear.IsMarked := by
  unfold clear
  split
  · exact h
  · exact isMarked_revise f []

theorem isMarked_retype (h : f.IsMarked) (catalog : Catalog) : (f.retype catalog).IsMarked := by
  rcases f.retype_cases catalog with ⟨_, same⟩ | revised
  · rw [same]
    exact h
  · rw [revised]
    exact isMarked_revise f _

/-- an edit at a position fails if and only if no condition stands there -/
theorem at_position_eq_error {α : Type} {k : Condition → α} {x : Failure} :
    (match f.conditions[position]? with
      | some c => .ok (k c)
      | none => .error (.noCondition position)) = (.error x : Except Failure α) ↔
      f.conditions.length ≤ position ∧ x = .noCondition position := by
  split
  · next hc =>
    have hlt := (List.getElem?_eq_some_iff.mp hc).1
    exact iff_of_false nofun (fun hx => by omega)
  · next hc =>
    rw [List.getElem?_eq_none_iff] at hc
    constructor
    · rintro ⟨⟩
      exact ⟨hc, rfl⟩
    · rintro ⟨_, rfl⟩
      rfl

theorem remove_eq_error {x : Failure} :
    f.remove position = .error x ↔ f.conditions.length ≤ position ∧ x = .noCondition position :=
  at_position_eq_error

theorem update_eq_error {x : Failure} {change : Condition.Change} :
    f.update catalog position change = .error x ↔
      f.conditions.length ≤ position ∧ x = .noCondition position :=
  at_position_eq_error

/-! ### edits that are made -/

theorem remove_of_getElem? (stands : f.conditions[position]? = some c) :
    f.remove position = .ok (c, f.revise (f.conditions.eraseIdx position)) := by
  rw [remove, stands]

theorem update_of_getElem? (stands : f.conditions[position]? = some c) (catalog : Catalog)
    (change : Condition.Change) :
    f.update catalog position change
      = .ok (f.revise (f.conditions.set position (c.change catalog change))) := by
  rw [update, stands]

theorem remove_eq_ok (made : f.remove position = .ok (c, g)) :
    f.conditions[position]? = some c ∧ g = f.revise (f.conditions.eraseIdx position) := by
  unfold remove at made
  split at made
  · next stands =>
    cases made
    exact ⟨stands, rfl⟩
  · cases made

theorem update_eq_ok {change : Condition.Change} (made : f.update catalog position change = .ok g) :
    ∃ c, f.conditions[position]? = some c ∧
      g = f.revise (f.conditions.set position (c.change catalog change)) := by
  unfold update at made
  split at made
  · next c stands =>
    cases made
    exact ⟨c, stands, rfl⟩
  · cases made

/-! ### edits that correspond -/

/-- the conditions agree by two functions, and so will those that are added -/
structure Corresponds (k j : Condition → Condition) (f g : Filter) : Prop where
  conditions : f.conditions.map k = g.conditions.map j
  blank : ∀ i, k (.blank (f.lastId + i)) = j (.blank (g.lastId + i))

theorem conditions_retype (h : f.IsMarked) (catalog : Catalog) :
    (f.retype catalog).conditions = f.conditions.map (Condition.retype catalog) := by
  rcases f.retype_cases catalog with ⟨typed, same⟩ | revised
  · rw [same, typed]
  · rw [revised, conditions_revise, markFirst_map (Condition.retype_marked catalog), h]

theorem lastId_retype (f : Filter) (catalog : Catalog) : (f.retype catalog).lastId = f.lastId := by
  rcases f.retype_cases catalog with ⟨_, same⟩ | revised
  · rw [same]
  · rw [revised, lastId_revise]

theorem corresponds_self (f : Filter) : f.Corresponds (fun c => c) (fun c => c) f where
  conditions := rfl
  blank _ := rfl

theorem corresponds_retype (h : f.IsMarked) (catalog : Catalog) :
    f.Corresponds (Condition.retype catalog) (fun c => c) (f.retype catalog) where
  conditions := by rw [conditions_retype h, List.map_id']
  blank i := by rw [Condition.retype_blank, lastId_retype]

section
variable {k j : Condition → Condition} {a b : Catalog}

theorem Corresponds.same {g' : Filter} (h : f.Corresponds k (fun c => c) g)
    (h' : f.Corresponds k (fun c => c) g') : g.Same g' := by
  constructor
  · rw [← List.map_id' g.conditions, ← List.map_id' g'.conditions, ← h.conditions, h'.conditions]
  · exact congrArg Condition.id ((h.blank 0).symm.trans (h'.blank 0))

theorem Corresponds.length (h : f.Corresponds k j g) :
    f.conditions.length = g.conditions.length := by
  have hl := congrArg List.length h.conditions
  rwa [List.length_map, List.length_map] at hl

theorem Corresponds.revise (hk : Condition.Carries k j a b) (h : f.Corresponds k j g)
    {cs ds : List Condition} (hcs : cs.map k = ds.map j) :
    (f.revise cs).Corresponds k j (g.revise ds) where
  conditions := by
    rw [conditions_revise, conditions_revise, ← markFirst_map hk.marked_left,
      ← markFirst_map hk.marked_right, hcs]
  blank := h.blank

theorem Corresponds.append (hk : Condition.Carries k j a b) (h : f.Corresponds k j g) :
    f.append.Corresponds k j g.append where
  conditions := by
    have last : k (.blank f.nextId) = j (.blank g.nextId) := h.blank 1
    rw [Filter.append, Filter.append, conditions_revise, conditions_revise,
      ← markFirst_map hk.marked_left, ← markFirst_map hk.marked_right, List.map_append,
      List.map_append, h.conditions, List.map_singleton, List.map_singleton, last]
  blank i := by
    show k (.blank (f.lastId + 1 + i)) = j (.blank (g.lastId + 1 + i))
    rw [Nat.add_assoc, Nat.add_assoc]
    exact h.blank (1 + i)

theorem Corresponds.getElem? (h : f.Corresponds k j g) (hc : f.conditions[position]? = some c) :
    ∃ d, g.conditions[position]? = some d ∧ k c = j d := by
  have heq := congrArg (·[position]?) h.conditions
  simp only [List.getElem?_map, hc, Option.map_some] at heq
  obtain ⟨d, hd, hcd⟩ := Option.map_eq_some_iff.mp heq.symm
  exact ⟨d, hd, hcd.symm⟩

theorem Corresponds.remove (hk : Condition.Carries k j a b) (h : f.Corresponds k j g)
    (hr : f.remove position = .ok (c, f')) :
    ∃ d g', g.remove position = .ok (d, g') ∧ f'.Corresponds k j g' := by
  obtain ⟨hc, rfl⟩ := remove_eq_ok hr
  obtain ⟨d, hd, _⟩ := h.getElem? hc
  refine ⟨d, _, remove_of_getElem? hd, h.revise hk ?_⟩
  rw [← List.eraseIdx_map, ← List.eraseIdx_map, h.conditions]

theorem Corresponds.update (hk : Condition.Carries k j a b) (h : f.Corresponds k j g)
    {change : Condition.Change} (hu : f.update a position change = .ok f') :
    ∃ g', g.update b position change = .ok g' ∧ f'.Corresponds k j g' := by
  obtain ⟨c, hc, rfl⟩ := update_eq_ok hu
  obtain ⟨d, hd, hcd⟩ := h.getElem? hc
  refine ⟨_, update_of_getElem? hd b change, h.revise hk ?_⟩
  rw [List.map_set, List.map_set, h.conditions, hk.change hcd]

theorem Corresponds.remove_error (h : f.Corresponds k j g) {x : Failure}
    (hr : f.remove position = .error x) : g.remove position = .error x := by
  rw [remove_eq_error] at hr ⊢
  rw [← h.length]
  exact hr

theorem Corresponds.update_error (h : f.Corresponds k j g) {change : Condition.Change} {x : Failure}
    (hu : f.update a position change = .error x) : g.update b position change = .error x := by
  rw [update_eq_error] at hu ⊢
  rw [← h.length]
  exact hu

end

theorem conditions_clear (f : Filter) : f.clear.conditions = [] := by
  unfold clear
  split
  · next h => exact h
  · rfl

end Filter

end SoqlForm
