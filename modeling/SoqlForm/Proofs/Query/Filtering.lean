import SoqlForm.Proofs.Query.Core
import Mathlib.Logic.Relation

/-!
# A query is filtered by its complete conditions alone

A condition without field or without value may stand anywhere and is not shown; nor is the
connective of the first complete condition, nor the id, the mark and the control of any.

* `Condition.Unshown`        one change of the conditions that no query shows;
* `Query.shown`              what a query shows of its conditions;
* `render_withConditions`    the text of a query around that of its filter;
* `filterText_append`        the filter of two groups of conditions, one behind the other;
* `render_of_conditions`     all of it together.
-/

namespace SoqlForm

/-- one change of some conditions that no query shows -/
inductive Condition.Unshown : List Condition → List Condition → Prop
  /-- a condition that is not complete is put in anywhere -/
  | insert (as bs : List Condition) (c : Condition) (hc : c.isComplete = false) :
      Unshown (as ++ bs) (as ++ c :: bs)
  /-- the first complete condition gets another connective -/
  | reconnect (as bs : List Condition) (c : Condition) (connective : Connective)
      (has : ∀ a ∈ as, a.isComplete = false) (hc : c.isComplete = true) :
      Unshown (as ++ c :: bs) (as ++ { c with connective } :: bs)
  /-- a condition gets another id, mark and control -/
  | relabel (as bs : List Condition) (c : Condition) (id : Nat) (isFirst : Bool)
      (control : Control) : Unshown (as ++ c :: bs) (as ++ { c with id, isFirst, control } :: bs)

namespace Query

variable {style : Style} {catalog : Catalog} {q : Query} {e : String} {as bs cs ds : List Condition}

def withConditions (q : Query) (cs : List Condition) : Query := { q with conditions := cs }

theorem withConditions_self (q : Query) : q.withConditions q.conditions = q := rfl

theorem completeConditions_withConditions (q : Query) (cs : List Condition) :
    (q.withConditions cs).completeConditions = cs.filter (·.isComplete) := rfl

/-! ### what is shown of conditions -/

/-- the conditions without the connective of the first -/
def unlinked : List Condition → List Condition
  | [] => []
  | c :: cs => { c with connective := .and } :: cs

/-- what a query shows of conditions: the complete ones, without the connective of the first -/
def shown (cs : List Condition) : List Condition :=
  unlinked ((cs.filter (·.isComplete)).map Condition.core)

theorem shown_eq_nil_iff : shown cs = [] ↔ cs.filter (·.isComplete) = [] := by
  unfold shown
  cases cs.filter (·.isComplete) with
  | nil => exact iff_of_true rfl rfl
  | cons c cs => exact iff_of_false nofun nofun

theorem shown_filter (cs : List Condition) : shown (cs.filter (·.isComplete)) = shown cs := by
  rw [shown, List.filter_filter]
  simp only [Bool.and_self]
  rfl

theorem filter_of_incomplete (has : ∀ a ∈ as, a.isComplete = false) :
    as.filter (·.isComplete) = [] := by
  rw [List.filter_eq_nil_iff]
  intro a ha
  rw [has a ha]
  exact Bool.false_ne_true

theorem shown_of_unshown (h : Condition.Unshown cs ds) : shown cs = shown ds := by
  cases h with
  | insert as bs c hc => simp [shown, hc]
  | reconnect as bs c connective has hc =>
    have hc' : { c with connective }.isComplete = true := hc
    simp only [shown, List.filter_append, List.filter_cons, filter_of_incomplete has, hc, hc']
    rfl
  | relabel as bs c id isFirst control =>
    have hc : { c with id, isFirst, control }.isComplete = c.isComplete := rfl
    have hcore : { c with id, isFirst, control }.core = c.core := rfl
    unfold shown
    rw [List.filter_append, List.filter_append, List.filter_cons, List.filter_cons, hc,
      List.map_append, List.map_append]
    cases c.isComplete with
    | false => rfl
    | true => rw [if_pos rfl, if_pos rfl, List.map_cons, List.map_cons, hcore]

theorem shown_of_eqvGen (h : Relation.EqvGen Condition.Unshown cs ds) : shown cs = shown ds := by
  induction h with
  | rel _ _ h => exact shown_of_unshown h
  | refl _ => rfl
  | symm _ _ _ ih => exact ih.symm
  | trans _ _ _ _ _ ih₁ ih₂ => exact ih₁.trans ih₂

/-! ### the text of a filter -/

def filterText (style : Style) (catalog : Catalog) (cs : List Condition) : String :=
  predicate style catalog (cs.filter (·.isComplete))

theorem predicate_unlinked (cs : List Condition) :
    predicate style catalog (unlinked cs) = predicate style catalog cs := by
  cases cs <;> rfl

theorem filterText_eq (cs : List Condition) :
    filterText style catalog cs = predicate style catalog (shown cs) := by
  rw [shown, predicate_unlinked, predicate_core, filterText]

/-- a further condition stands behind its connective -/
theorem predicate_append {c : Condition} (has : as ≠ []) :
    predicate style catalog (as ++ c :: cs) = predicate style catalog as ++ " " ++
      c.connective.token ++ " " ++ predicate style catalog (c :: cs) := by
  cases as with
  | nil => exact absurd rfl has
  | cons a as =>
    simp only [List.cons_append, predicate, List.map_append, List.map_cons, String.join_append,
      String.join_cons, Condition.joined, String.append_assoc]

theorem filterText_append {b : Condition} (has : as.filter (·.isComplete) ≠ [])
    (hbs : (bs.filter (·.isComplete)).head? = some b) :
    filterText style catalog (as ++ bs) = filterText style catalog as ++ " " ++
      b.connective.token ++ " " ++ filterText style catalog bs := by
  obtain ⟨bs', hb⟩ := List.head?_eq_some_iff.mp hbs
  rw [filterText, List.filter_append, filterText, filterText, hb, predicate_append has]

/-! ### the text of a query around its filter -/

/-- the text of a query up to its filter -/
def opening (q : Query) (entity : String) : String :=
  "SELECT " ++ selection q.fields ++ " FROM " ++ entity

/-- the text of a query behind its filter -/
def ending (q : Query) : String :=
  String.join ((q.orderClause ++ q.limitClause ++ q.offsetClause).map (" " ++ ·))

theorem intercalate_space (s : String) (parts : List String) :
    " ".intercalate (s :: parts) = s ++ String.join (parts.map (" " ++ ·)) := by
  induction parts generalizing s with
  | nil => simp
  | cons t parts ih =>
    rw [String.intercalate_cons_cons, ih, List.map_cons, String.join_cons]
    simp only [String.append_assoc]

/-- the filter behind its word, with a space in front -/
theorem join_whereClause (q : Query) (cs : List Condition) :
    String.join (((q.withConditions cs).whereClause style catalog).map (" " ++ ·)) =
      if cs.filter (·.isComplete) = [] then "" else " WHERE " ++ filterText style catalog cs := by
  have hword : " " ++ "WHERE " = " WHERE " := rfl
  rw [whereClause, completeConditions_withConditions, filterText]
  cases cs.filter (·.isComplete) with
  | nil => rfl
  | cons c cs =>
    rw [if_neg (List.cons_ne_nil c cs)]
    simp only [List.map_cons, List.map_nil, String.join_cons, String.join_nil, String.append_empty]
    rw [← hword, String.append_assoc]

theorem render_withConditions (he : q.target? = some e) (cs : List Condition) :
    (q.withConditions cs).render style catalog = q.opening e ++
      (if cs.filter (·.isComplete) = [] then "" else " WHERE " ++ filterText style catalog cs) ++
      q.ending := by
  have htarget : (q.withConditions cs).target? = some e := he
  have hclauses : (q.withConditions cs).clauses style catalog e =
      ("SELECT " ++ selection q.fields) :: ("FROM " ++ e) ::
        ((q.withConditions cs).whereClause style catalog ++
          (q.orderClause ++ q.limitClause ++ q.offsetClause)) := by
    simp only [clauses, List.append_assoc]
    rfl
  have hfrom : " " ++ "FROM " = " FROM " := rfl
  rw [render, htarget]
  show " ".intercalate ((q.withConditions cs).clauses style catalog e) = _
  rw [hclauses, intercalate_space, List.map_cons, List.map_append, String.join_cons,
    String.join_append, join_whereClause, opening, ending, ← hfrom]
  simp only [String.append_assoc]

theorem render_of_shown_eq (h : shown cs = shown ds) :
    (q.withConditions cs).render style catalog = (q.withConditions ds).render style catalog := by
  cases he : q.target? with
  | none =>
    have hnone : ∀ cs, (q.withConditions cs).target? = none := fun _ => he
    rw [render, render, hnone, hnone]
  | some e =>
    have hempty : cs.filter (·.isComplete) = [] ↔ ds.filter (·.isComplete) = [] := by
      rw [← shown_eq_nil_iff, h, shown_eq_nil_iff]
    simp only [render_withConditions he, filterText_eq, h, hempty]

/-- **A query is filtered by its complete conditions alone.**  Changes of the conditions that are
not shown leave the text as it is, also when all conditions that are not complete are taken out.
With an entity, the text is an opening and an ending that no condition changes, and between them
the filter if some condition is complete; the filter of two groups of conditions is that of the one,
the connective of the first complete condition of the other, and the filter of the other. -/
theorem render_of_conditions (style : Style) (catalog : Catalog) (q : Query) :
    (∀ cs, Relation.EqvGen Condition.Unshown q.conditions cs →
        (q.withConditions cs).render style catalog = q.render style catalog) ∧
      (q.withConditions q.completeConditions).render style catalog = q.render style catalog ∧
      ∀ e, q.target? = some e →
        (∀ cs, cs.filter (·.isComplete) = [] →
          (q.withConditions cs).render style catalog = q.opening e ++ q.ending) ∧
        (∀ cs, cs.filter (·.isComplete) ≠ [] → (q.withConditions cs).render style catalog =
          q.opening e ++ " WHERE " ++ filterText style catalog cs ++ q.ending) ∧
        ∀ as bs b, as.filter (·.isComplete) ≠ [] → (bs.filter (·.isComplete)).head? = some b →
          (q.withConditions (as ++ bs)).render style catalog =
            q.opening e ++ " WHERE " ++ (filterText style catalog as ++ " " ++ b.connective.token ++
              " " ++ filterText style catalog bs) ++ q.ending := by
  have hsome : ∀ e, q.target? = some e → ∀ cs : List Condition, cs.filter (·.isComplete) ≠ [] →
      (q.withConditions cs).render style catalog =
        q.opening e ++ " WHERE " ++ filterText style catalog cs ++ q.ending := by
    intro e he cs hcs
    rw [render_withConditions he, if_neg hcs]
    simp only [String.append_assoc]
  refine ⟨fun cs h => ?unshown, ?completed, fun e he => ⟨fun cs hcs => ?none, hsome e he, ?two⟩⟩
  case unshown => exact (render_of_shown_eq (shown_of_eqvGen h)).symm
  case completed => exact render_of_shown_eq (shown_filter q.conditions)
  case none => rw [render_withConditions he, if_pos hcs, String.append_empty]
  case two =>
    intro as bs b has hbs
    have hboth : (as ++ bs).filter (·.isComplete) ≠ [] := by
      rw [List.filter_append]
      exact List.append_ne_nil_of_left_ne_nil has _
    rw [hsome e he _ hboth, filterText_append has hbs]

/-- half-filled conditions before, between and behind the two that are shown -/
theorem render_of_conditions_half_filled :
    let catalog := Catalog.ofFields "Account" [.plain "Size" .number]
    let named := Condition.make "Name" .like "Acme" .or
    let sized := Condition.make "Size" .greater "5" .or
    let as := [.blank 1, .make "Size" .notEqual "" .or, named]
    let bs := [.make "" .equal "x" .and, sized, .blank 2]
    let q := ofEntity "Account"
    as.filter (·.isComplete) ≠ [] ∧ (bs.filter (·.isComplete)).head? = some sized ∧
      (q.withConditions (as ++ bs)).render .standard catalog =
        "SELECT Id FROM Account WHERE Name LIKE '%Acme%' OR Size > 5" ∧
      (q.withConditions [named, sized]).render .standard catalog =
        "SELECT Id FROM Account WHERE Name LIKE '%Acme%' OR Size > 5" := by
  intro catalog named sized as bs q
  have has : as.filter (·.isComplete) ≠ [] := by decide
  have hbs : (bs.filter (·.isComplete)).head? = some sized := by decide
  obtain ⟨-, -, htext⟩ := render_of_conditions .standard catalog q
  have hboth := (htext "Account" (by decide)).2.2 as bs sized has hbs
  have hclauses : q.opening "Account" ++ " WHERE " ++ (filterText .standard catalog as ++ " " ++
      sized.connective.token ++ " " ++ filterText .standard catalog bs) ++ q.ending =
        "SELECT Id FROM Account WHERE Name LIKE '%Acme%' OR Size > 5" := by decide
  rw [hclauses] at hboth
  refine ⟨has, hbs, hboth, ?_⟩
  rw [← hboth]
  exact (render_of_conditions .standard catalog (q.withConditions (as ++ bs))).2.1

end Query

end SoqlForm
