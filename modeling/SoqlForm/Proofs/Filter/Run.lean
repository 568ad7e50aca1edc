import SoqlForm.Proofs.Filter

/-!
# Runs of a filter

A filter is edited by one operation after another.  Whatever their order, the conditions stand in
the order of their ids, no id is given twice, and the first condition is the only one marked.

* `Filter.Operation`, `Filter.perform`, `Filter.after`   the operations, one and many;
* `Filter.changeOf?`     the change that an operation makes to the condition with an id;
* `Filter.Performs`      what an operation can turn out to do, one rule for each way;
* `Filter.Orderly`       what holds of a filter on every run;
* `Performs.orderly`, `orderly_after`   an operation keeps it so, and so does a run;
* `lastId_after`         the id given last counts the conditions added;
* `ids_after`            ids, marks and positions on every run.
-/

namespace SoqlForm

namespace Filter

inductive Operation where
  | append
  | remove (position : Nat)
  | update (catalog : Catalog) (position : Nat) (change : Condition.Change)
  | retype (catalog : Catalog)
  | clear

inductive Outcome where
  | added (id : Nat)
  | removed (c : Condition)
  | done

/-- an operation that fails leaves the filter as it was -/
def perform (f : Filter) : Operation → Except Failure Outcome × Filter
  | .append => (.ok (.added f.nextId), f.append)
  | .remove position =>
    match f.remove position with
    | .ok (c, g) => (.ok (.removed c), g)
    | .error x => (.error x, f)
  | .update catalog position change =>
    match f.update catalog position change with
    | .ok g => (.ok .done, g)
    | .error x => (.error x, f)
  | .retype catalog => (.ok .done, f.retype catalog)
  | .clear => (.ok .done, f.clear)

def after (f : Filter) (os : List Operation) : Filter := os.foldl (fun f o => (f.perform o).2) f

theorem after_cons (f : Filter) (o : Operation) (os : List Operation) :
    f.after (o :: os) = (f.perform o).2.after os := rfl

def Operation.adds : Operation → Bool
  | append => true
  | _ => false

def ids (f : Filter) : List Nat := f.conditions.map (·.id)

def changeOf? (f : Filter) (id : Nat) : Operation → Option Condition.Change
  | .update _ position change => if f.ids[position]? = some id then some change else none
  | _ => none

/-! ### what an operation does -/

section
variable (f : Filter)

inductive Performs : Operation → Except Failure Outcome → Filter → Prop where
  | appended : Performs .append (.ok (.added f.nextId)) f.append
  | removed {position : Nat} {c : Condition} (stands : f.conditions[position]? = some c) :
      Performs (.remove position) (.ok (.removed c)) (f.revise (f.conditions.eraseIdx position))
  | notRemoved {position : Nat} (missing : f.conditions[position]? = none) :
      Performs (.remove position) (.error (.noCondition position)) f
  | updated {catalog : Catalog} {position : Nat} {change : Condition.Change} {c : Condition}
      (stands : f.conditions[position]? = some c) :
      Performs (.update catalog position change) (.ok .done)
        (f.revise (f.conditions.set position (c.change catalog change)))
  | notUpdated {catalog : Catalog} {position : Nat} {change : Condition.Change}
      (missing : f.conditions[position]? = none) :
      Performs (.update catalog position change) (.error (.noCondition position)) f
  | retyped {catalog : Catalog} : Performs (.retype catalog) (.ok .done) (f.retype catalog)
  | cleared : Performs .clear (.ok .done) f.clear

end

variable {f g : Filter} {o : Operation} {result : Except Failure Outcome} {position i : Nat}
  {c d : Condition}

theorem performs_perform (f : Filter) (o : Operation) :
    Performs f o (f.perform o).1 (f.perform o).2 := by
  cases o with
  | append => exact .appended
  | remove position =>
    cases stands : f.conditions[position]? with
    | some c =>
      rw [perform, remove_of_getElem? stands]
      exact .removed stands
    | none =>
      rw [perform, remove, stands]
      exact .notRemoved stands
  | update catalog position change =>
    cases stands : f.conditions[position]? with
    | some c =>
      rw [perform, update_of_getElem? stands]
      exact .updated stands
    | none =>
      rw [perform, update, stands]
      exact .notUpdated stands
  | retype catalog => exact .retyped
  | clear => exact .cleared

/-! ### marks, by position -/

theorem getElem?_markFirst (cs : List Condition) (i : Nat) :
    (markFirst cs)[i]? = cs[i]?.map (·.marked (i == 0)) := by
  cases cs with
  | nil => rfl
  | cons c cs =>
    cases i with
    | zero => rfl
    | succ i =>
      rw [markFirst_cons, List.getElem?_cons_succ, List.getElem?_cons_succ, List.getElem?_map]
      rfl

theorem IsMarked.isFirst (h : f.IsMarked) (hc : f.conditions[i]? = some c) :
    c.isFirst = (i == 0) := by
  have marks := getElem?_markFirst f.conditions i
  rw [h, hc, Option.map_some] at marks
  exact congrArg Condition.isFirst (Option.some.inj marks)

/-- a condition may be put in the place of another one with the same mark -/
theorem IsMarked.markFirst_set (h : f.IsMarked) (hc : f.conditions[position]? = some c)
    (hd : d.isFirst = c.isFirst) :
    markFirst (f.conditions.set position d) = f.conditions.set position d := by
  apply List.ext_getElem?
  intro i
  have kept : f.conditions[i]?.map (·.marked (i == 0)) = f.conditions[i]? := by
    rw [← getElem?_markFirst, h]
  rw [getElem?_markFirst, List.getElem?_set]
  split
  · next hi =>
    subst hi
    rw [h.isFirst hc] at hd
    split
    · rw [Option.map_some, ← hd]
      rfl
    · rfl
  · exact kept

theorem map_markFirst {α : Type} {k : Condition → α} (hk : ∀ m c, k (c.marked m) = k c)
    (cs : List Condition) : (markFirst cs).map k = cs.map k := by
  cases cs with
  | nil => rfl
  | cons c cs =>
    have tail : (cs.map (·.marked false)).map k = cs.map k := by
      rw [List.map_map]
      exact List.map_congr_left fun c' _ => hk false c'
    rw [markFirst_cons, List.map_cons, List.map_cons, hk, tail]

/-! ### ids -/

theorem ids_revise (f : Filter) (cs : List Condition) : (f.revise cs).ids = cs.map (·.id) :=
  map_markFirst (fun _ _ => rfl) cs

theorem ids_append (f : Filter) : f.append.ids = f.ids ++ [f.nextId] := by
  rw [append, ids_revise, List.map_append]
  rfl

theorem id_change (catalog : Catalog) (c : Condition) (change : Condition.Change) :
    (c.change catalog change).id = c.id := by
  cases change <;> rfl

theorem isFirst_change (catalog : Catalog) (c : Condition) (change : Condition.Change) :
    (c.change catalog change).isFirst = c.isFirst := by
  cases change <;> rfl

theorem id_retype (catalog : Catalog) (c : Condition) : (c.retype catalog).id = c.id := by
  unfold Condition.retype
  split <;> rfl

theorem ids_update (stands : f.conditions[position]? = some c) (catalog : Catalog)
    (change : Condition.Change) :
    (f.revise (f.conditions.set position (c.change catalog change))).ids = f.ids := by
  obtain ⟨hlt, rfl⟩ := List.getElem?_eq_some_iff.mp stands
  have hlt' : position < (f.conditions.map (·.id)).length := by rwa [List.length_map]
  rw [ids_revise, List.map_set, id_change, ids, ← List.getElem_map Condition.id (h := hlt'),
    List.set_getElem_self]

theorem ids_retype (f : Filter) (catalog : Catalog) : (f.retype catalog).ids = f.ids := by
  rcases f.retype_cases catalog with ⟨_, same⟩ | revised
  · rw [same]
  · rw [revised, ids_revise, List.map_map]
    exact List.map_congr_left fun c _ => id_retype catalog c

theorem ids_clear (f : Filter) : f.clear.ids = [] := by rw [ids, conditions_clear]; rfl

theorem Performs.ids_sublist (p : Performs f o result g) (h : o.adds = false) :
    g.ids.Sublist f.ids := by
  cases p with
  | appended => cases h
  | removed stands =>
    rw [ids_revise, ids, ← List.eraseIdx_map]
    exact List.eraseIdx_sublist _ _
  | notRemoved missing => exact .refl _
  | updated stands => exact (ids_update stands _ _).symm ▸ .refl f.ids
  | notUpdated missing => exact .refl _
  | retyped => exact (ids_retype f _).symm ▸ .refl f.ids
  | cleared => exact (ids_clear f).symm ▸ List.nil_sublist f.ids

theorem Performs.lastId (p : Performs f o result g) : g.lastId = f.lastId + o.adds.toNat := by
  cases p with
  | retyped => exact lastId_retype f _
  | cleared =>
    unfold clear
    split <;> rfl
  | _ => rfl

/-! ### what holds on every run -/

structure Orderly (f : Filter) : Prop where
  marked : f.IsMarked
  increasing : f.ids.Pairwise (· < ·)
  id_le : ∀ id ∈ f.ids, id ≤ f.lastId

theorem orderly_empty : empty.Orderly where
  marked := isMarked_empty
  increasing := .nil
  id_le := nofun

theorem Performs.marked (p : Performs f o result g) (h : f.IsMarked) : g.IsMarked := by
  cases p with
  | appended => exact isMarked_revise _ _
  | removed stands => exact isMarked_revise f _
  | notRemoved missing => exact h
  | updated stands => exact isMarked_revise f _
  | notUpdated missing => exact h
  | retyped => exact isMarked_retype h _
  | cleared => exact isMarked_clear h

theorem orderly_append (h : f.Orderly) : f.append.Orderly where
  marked := isMarked_revise _ _
  increasing := by
    rw [ids_append, List.pairwise_append]
    refine ⟨h.increasing, List.pairwise_singleton _ _, ?_⟩
    intro id hid new hnew
    rw [List.mem_singleton.mp hnew]
    exact Nat.lt_succ_of_le (h.id_le id hid)
  id_le := by
    intro id hid
    rw [ids_append] at hid
    show id ≤ f.lastId + 1
    rcases List.mem_append.mp hid with hid | hid
    · exact Nat.le_succ_of_le (h.id_le id hid)
    · exact Nat.le_of_eq (List.mem_singleton.mp hid)

theorem Performs.orderly (p : Performs f o result g) (h : f.Orderly) : g.Orderly := by
  cases hadds : o.adds with
  | true =>
    cases p with
    | appended => exact orderly_append h
    | _ => cases hadds
  | false =>
    have fewer := p.ids_sublist hadds
    have last : g.lastId = f.lastId := by rw [p.lastId, hadds]; rfl
    refine ⟨p.marked h.marked, h.increasing.sublist fewer, ?_⟩
    intro id hid
    rw [last]
    exact h.id_le id (fewer.subset hid)

/-- what every operation keeps, a run keeps -/
theorem after_keeps {P : Filter → Prop}
    (keeps : ∀ {f o result g}, Performs f o result g → P f → P g) (h : P f) (os : List Operation) :
    P (f.after os) := by
  induction os generalizing f with
  | nil => exact h
  | cons o os ih => exact ih (keeps (performs_perform f o) h)

theorem isMarked_after (h : f.IsMarked) (os : List Operation) : (f.after os).IsMarked :=
  after_keeps Performs.marked h os

theorem orderly_after (h : f.Orderly) (os : List Operation) : (f.after os).Orderly :=
  after_keeps Performs.orderly h os

theorem lastId_after (f : Filter) (os : List Operation) :
    (f.after os).lastId = f.lastId + os.countP Operation.adds := by
  induction os generalizing f with
  | nil => rfl
  | cons o os ih =>
    rw [after_cons, ih, (performs_perform f o).lastId, List.countP_cons, Nat.add_assoc,
      Nat.add_comm o.adds.toNat]
    cases o.adds <;> rfl

/-! ### positions -/

theorem Orderly.positionOf? (h : f.Orderly) (id : Nat) :
    f.positionOf? id = some position ↔
      ∃ c, f.conditions[position]? = some c ∧ c.id = id := by
  rw [Filter.positionOf?, List.findIdx?_eq_some_iff_getElem]
  constructor
  · rintro ⟨hlt, found, _⟩
    exact ⟨_, List.getElem?_eq_getElem hlt, beq_iff_eq.mp found⟩
  · rintro ⟨c, stands, rfl⟩
    obtain ⟨hlt, rfl⟩ := List.getElem?_eq_some_iff.mp stands
    refine ⟨hlt, beq_self_eq_true _, ?_⟩
    -- the ids before are smaller
    intro j hj found
    have smaller := List.pairwise_iff_getElem.mp h.increasing j position
      (by rw [ids, List.length_map]; omega) (by rwa [ids, List.length_map]) hj
    simp only [ids, List.getElem_map] at smaller
    rw [beq_iff_eq] at found
    omega

theorem Orderly.update (h : f.Orderly) {catalog : Catalog} {change : Condition.Change}
    (made : f.update catalog position change = .ok g) :
    ∃ c, f.conditions[position]? = some c ∧
      g.conditions = f.conditions.set position (c.change catalog change) := by
  obtain ⟨c, stands, rfl⟩ := update_eq_ok made
  exact ⟨c, stands, h.marked.markFirst_set stands (isFirst_change catalog c change)⟩

/-- **Ids, marks and positions on every run of a filter.**  The ids go up along the list and none is
given twice; the mark is on the first condition alone; a condition is found at its position by its
id.  An update changes one condition in its place, and keeps its id and its mark; a removal takes
out one condition, and the others keep all but their marks. -/
theorem ids_after (os : List Operation) :
    let f := empty.after os
    f.ids.Pairwise (· < ·) ∧
      (f.perform .append).1 = .ok (.added (os.countP Operation.adds + 1)) ∧
      (∀ earlier later, os = earlier ++ later →
        ∀ id ∈ (empty.after earlier).ids, id < os.countP Operation.adds + 1) ∧
      (∀ i c, f.conditions[i]? = some c → (c.isFirst = true ↔ i = 0)) ∧
      (∀ id i, f.positionOf? id = some i ↔ ∃ c, f.conditions[i]? = some c ∧ c.id = id) ∧
      (∀ catalog i change g, f.update catalog i change = .ok g →
        ∃ c d, f.conditions[i]? = some c ∧ g.conditions = f.conditions.set i d ∧ d.id = c.id ∧
          d.isFirst = c.isFirst) ∧
      ∀ i c g, f.remove i = .ok (c, g) → f.conditions[i]? = some c ∧
        g.conditions.map (·.marked false) = (f.conditions.eraseIdx i).map (·.marked false) := by
  intro f
  have h : f.Orderly := orderly_after orderly_empty os
  have last : ∀ os, (empty.after os).lastId = os.countP Operation.adds := fun os => by
    rw [lastId_after]
    exact Nat.zero_add _
  refine ⟨h.increasing, ?_, ?_, ?_, fun id i => h.positionOf? id, ?_, ?_⟩
  · rw [← last os]
    rfl
  · rintro earlier later rfl id hid
    have hle := (orderly_after orderly_empty earlier).id_le id hid
    rw [last] at hle
    rw [List.countP_append]
    omega
  · intro i c stands
    rw [h.marked.isFirst stands, beq_iff_eq]
  · intro catalog i change g made
    obtain ⟨c, stands, conditions⟩ := h.update made
    exact ⟨c, _, stands, conditions, id_change catalog c change, isFirst_change catalog c change⟩
  · intro i c g made
    obtain ⟨stands, rfl⟩ := remove_eq_ok made
    exact ⟨stands, map_markFirst (fun _ _ => rfl) _⟩

/-- the ids go on behind the end of all conditions, and behind a removal from the front -/
theorem ids_after_clear :
    let os : List Operation := [.append, .clear, .append, .append, .append, .remove 0]
    let f := empty.after os
    (f.perform .append).1 = .ok (.added 5) ∧
      1 ∈ (empty.after [.append]).ids ∧ 1 < 5 ∧
      (∃ c, f.conditions[1]? = some c ∧ (c.isFirst = true ↔ 1 = 0)) ∧
      f.positionOf? 4 = some 1 ∧
      (∃ g, f.update .empty 1 (.field "Name") = .ok g ∧
        ∃ c d, f.conditions[1]? = some c ∧ g.conditions = f.conditions.set 1 d ∧ d.id = c.id ∧
          d.isFirst = c.isFirst) ∧
      ∃ c g, f.remove 0 = .ok (c, g) ∧ f.conditions[0]? = some c ∧
        g.conditions.map (·.marked false) = (f.conditions.eraseIdx 0).map (·.marked false) := by
  intro os f
  obtain ⟨_, added, fresh, marks, positions, updates, removals⟩ := ids_after os
  have old : 1 ∈ (empty.after [.append]).ids := List.mem_singleton_self 1
  exact ⟨added, old, fresh [.append] _ rfl 1 old, ⟨_, rfl, marks 1 _ rfl⟩,
    (positions 4 1).mpr ⟨_, rfl, rfl⟩, ⟨_, rfl, updates .empty 1 (.field "Name") _ rfl⟩,
    ⟨_, _, rfl, removals 0 _ _ rfl⟩⟩

end Filter

end SoqlForm
