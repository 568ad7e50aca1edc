import Mathlib.Data.List.Perm.Basic
import SoqlForm.Proofs.Query.Limit
import SoqlForm.Query.Review

/-!
# What the review of a query goes by

Each rule of the review says under which condition it holds; the grade and the tips follow from the
rules that hold, and two queries on which the same rules hold and that read the same in words have
one review.

* `Rule.Holds`, `Rule.applies_iff`   the conditions of the rules;
* `grade_eq_poor_iff`, `grade_eq_fair_iff`, `grade_eq_good_iff`   the grade by the rules that hold;
* `ReviewedAlike`, `ReviewedAlike.review_eq`   what the review sees of a query, and nothing else;
* `Lifts`, `Rule.Holds.of_lifts`   a higher limit, under which more rules hold;
* `review_of_rules`                  all of it together.
-/

namespace SoqlForm

/-- what the review sees of a condition: field, operator, and whether a value is given -/
def Condition.aspect (c : Condition) : String × Comparison × Bool :=
  (c.field, c.comparison, c.value != "")

namespace Query

variable {settings : Settings} {catalog : Catalog} {p q : Query} {r : Rule} {l l' : Option Nat}

/-! ### the conditions of the rules -/

/-- whether a field counts as indexed: by the catalog, or by the settings if the catalog does not
know it -/
def IsIndexed (settings : Settings) (catalog : Catalog) (name : String) : Prop :=
  (∃ f, catalog.find? name = some f ∧ f.isIndexed = true) ∨
    (catalog.find? name = none ∧ name ∈ settings.indexedNames)

theorem countsAsIndexed_iff {name : String} :
    countsAsIndexed settings catalog name = true ↔ IsIndexed settings catalog name := by
  unfold countsAsIndexed IsIndexed Settings.isIndexedName
  cases catalog.find? name with
  | none => simp
  | some f => simp

def Rule.Holds (settings : Settings) (catalog : Catalog) (q : Query) : Rule → Prop
  | unindexed => q.conditions ≠ [] ∧
      ∀ c ∈ q.conditions, c.value ≠ "" → ¬ IsIndexed settings catalog c.field
  | wide => settings.widthThreshold.toNat < q.fields.length
  | unbounded => ∀ n ∈ q.rowLimit?, settings.limitThreshold.toNat < n
  | negative => ∃ c ∈ q.conditions, c.comparison.isNegative = true

theorem filtersOnIndexed_eq_false_iff : q.filtersOnIndexed settings catalog = false ↔
    ∀ c ∈ q.conditions, c.value ≠ "" → ¬ IsIndexed settings catalog c.field := by
  rw [filtersOnIndexed, List.any_eq_false]
  refine forall₂_congr fun c _ => ?_
  rw [Bool.and_eq_true, countsAsIndexed_iff, bne_iff_ne, not_and]

theorem isUnbounded_iff : q.isUnbounded settings = true ↔
    ∀ n ∈ q.rowLimit?, settings.limitThreshold.toNat < n := by
  unfold isUnbounded
  cases q.rowLimit? with
  | none => simp
  | some n => simp

theorem Rule.applies_iff : r.applies settings catalog q = true ↔ r.Holds settings catalog q := by
  cases r with
  | unindexed =>
    rw [applies, Bool.and_eq_true, Bool.not_eq_true', Bool.not_eq_true',
      filtersOnIndexed_eq_false_iff, List.isEmpty_eq_false_iff]
    rfl
  | wide => exact decide_eq_true_iff
  | unbounded => exact isUnbounded_iff
  | negative => exact List.any_eq_true

/-! ### the grade -/

theorem grade_eq (settings : Settings) (catalog : Catalog) (q : Query) :
    q.grade settings catalog =
      if Rule.negative.applies settings catalog q then .poor
      else if Rule.unindexed.applies settings catalog q || Rule.unbounded.applies settings catalog q
        then .fair
      else .good := by
  unfold grade findings Rule.all
  cases hu : Rule.unindexed.applies settings catalog q <;>
    cases hw : Rule.wide.applies settings catalog q <;>
    cases hb : Rule.unbounded.applies settings catalog q <;>
    cases hn : Rule.negative.applies settings catalog q <;>
    simp [hu, hw, hb, hn, Rule.worsen, Grade.downgrade]

theorem grade_eq_poor_iff :
    q.grade settings catalog = .poor ↔ Rule.negative.Holds settings catalog q := by
  rw [grade_eq, ← Rule.applies_iff]
  split
  · next h => exact iff_of_true rfl h
  · next h => split <;> exact iff_of_false nofun h

theorem grade_eq_fair_iff : q.grade settings catalog = .fair ↔
    ¬ Rule.negative.Holds settings catalog q ∧
      (Rule.unindexed.Holds settings catalog q ∨ Rule.unbounded.Holds settings catalog q) := by
  rw [grade_eq, ← Rule.applies_iff, ← Rule.applies_iff, ← Rule.applies_iff, ← Bool.or_eq_true]
  split
  · next h => exact iff_of_false nofun fun hnot => hnot.1 h
  · next h =>
    split
    · next ho => exact iff_of_true rfl ⟨h, ho⟩
    · next ho => exact iff_of_false nofun fun hsome => ho hsome.2

theorem grade_eq_good_iff : q.grade settings catalog = .good ↔
    ¬ Rule.negative.Holds settings catalog q ∧ ¬ Rule.unindexed.Holds settings catalog q ∧
      ¬ Rule.unbounded.Holds settings catalog q := by
  rw [grade_eq, ← Rule.applies_iff, ← Rule.applies_iff, ← Rule.applies_iff, ← not_or,
    ← Bool.or_eq_true]
  split
  · next h => exact iff_of_false nofun fun hnot => hnot.1 h
  · next h =>
    split
    · next ho => exact iff_of_false nofun fun hnone => hnone.2 ho
    · next ho => exact iff_of_true rfl ⟨h, ho⟩

/-- under more rules the grade is no better -/
theorem rank_grade_le
    (h : ∀ r : Rule, r.Holds settings catalog p → r.Holds settings catalog q) :
    (p.grade settings catalog).rank ≤ (q.grade settings catalog).rank := by
  cases hp : p.grade settings catalog with
  | good => exact Nat.zero_le _
  | fair =>
    obtain ⟨-, hsome⟩ := grade_eq_fair_iff.mp hp
    cases hq : q.grade settings catalog with
    | good =>
      obtain ⟨-, hunindexed, hunbounded⟩ := grade_eq_good_iff.mp hq
      rcases hsome with hsome | hsome
      · exact absurd (h _ hsome) hunindexed
      · exact absurd (h _ hsome) hunbounded
    | fair => exact Nat.le_refl _
    | poor => exact Nat.le_succ _
  | poor =>
    have hq := grade_eq_poor_iff.mpr (h _ (grade_eq_poor_iff.mp hp))
    exact Nat.le_of_eq (by rw [hq])

/-! ### the tips -/

theorem mem_findings_iff : r ∈ q.findings settings catalog ↔ r.Holds settings catalog q := by
  have hall : r ∈ Rule.all := by cases r <;> decide
  rw [findings, List.mem_filter, Rule.applies_iff, and_iff_right hall]

theorem findings_sublist
    (h : ∀ r : Rule, r.Holds settings catalog p → r.Holds settings catalog q) :
    (p.findings settings catalog).Sublist (q.findings settings catalog) :=
  List.monotone_filter_right _ fun r hr => Rule.applies_iff.mpr (h r (Rule.applies_iff.mp hr))

theorem findings_congr
    (h : ∀ r : Rule, r.Holds settings catalog p ↔ r.Holds settings catalog q) :
    p.findings settings catalog = q.findings settings catalog :=
  (findings_sublist fun r => (h r).mp).antisymm (findings_sublist fun r => (h r).mpr)

theorem mem_tips_iff {tip : String} : tip ∈ (q.review settings catalog).tips ↔
    ∃ r : Rule, r.Holds settings catalog q ∧ r.tip = tip := by
  show tip ∈ (q.findings settings catalog).map (·.tip) ↔ _
  simp only [List.mem_map, mem_findings_iff]

theorem tips_sublist (settings : Settings) (catalog : Catalog) (q : Query) :
    (q.review settings catalog).tips.Sublist (Rule.all.map (·.tip)) :=
  List.filter_sublist.map _

/-! ### what the review sees of a query -/

/-- two queries whose conditions have the same aspects, in any order and number, that select as
many fields, and the same if only one, and that agree on entity, sorting and limit -/
structure ReviewedAlike (p q : Query) : Prop where
  target : p.target? = q.target?
  conditions : ∀ a, a ∈ p.conditions.map (·.aspect) ↔ a ∈ q.conditions.map (·.aspect)
  width : p.fields.length = q.fields.length
  only : p.fields.length = 1 → p.fields = q.fields
  sorting : p.sortField? = q.sortField?
  limit : p.rowLimit? = q.rowLimit?

theorem fieldsInWords_congr {as bs : List String} (hlen : as.length = bs.length)
    (honly : as.length = 1 → as = bs) : fieldsInWords as = fieldsInWords bs := by
  match as, bs, hlen with
  | [], [], _ => rfl
  | [a], [b], _ => rw [honly rfl]
  | _ :: _ :: as, _ :: _ :: bs, hlen =>
    show (List.length _).repr ++ _ = (List.length _).repr ++ _
    rw [hlen]

namespace ReviewedAlike

theorem symm (h : p.ReviewedAlike q) : q.ReviewedAlike p where
  target := h.target.symm
  conditions a := (h.conditions a).symm
  width := h.width.symm
  only hone := (h.only (h.width.trans hone)).symm
  sorting := h.sorting.symm
  limit := h.limit.symm

/-- what all aspects have in common goes over -/
theorem forall_aspect (h : p.ReviewedAlike q) {P : String × Comparison × Bool → Prop}
    (hp : ∀ c ∈ p.conditions, P c.aspect) : ∀ c ∈ q.conditions, P c.aspect := by
  intro c hc
  obtain ⟨d, hd, haspect⟩ := List.mem_map.mp ((h.conditions c.aspect).mpr (List.mem_map_of_mem hc))
  exact haspect ▸ hp d hd

theorem conditions_eq_nil_iff (h : p.ReviewedAlike q) : p.conditions = [] ↔ q.conditions = [] := by
  rw [← List.map_eq_nil_iff (f := Condition.aspect), List.eq_nil_iff_forall_not_mem,
    ← List.map_eq_nil_iff (l := q.conditions) (f := Condition.aspect),
    List.eq_nil_iff_forall_not_mem]
  exact forall_congr' fun a => not_congr (h.conditions a)

theorem holds (h : p.ReviewedAlike q) (hp : r.Holds settings catalog p) :
    r.Holds settings catalog q := by
  cases r with
  | unindexed =>
    obtain ⟨hsome, hnone⟩ := hp
    refine ⟨mt h.conditions_eq_nil_iff.mpr hsome, fun c hc hvalue => ?_⟩
    exact h.forall_aspect (P := fun a => a.2.2 = true → ¬ IsIndexed settings catalog a.1)
      (fun d hd hgiven => hnone d hd (bne_iff_ne.mp hgiven)) c hc (bne_iff_ne.mpr hvalue)
  | wide => exact Nat.lt_of_lt_of_eq hp h.width
  | unbounded =>
    intro n hn
    exact hp n (h.limit ▸ hn)
  | negative =>
    obtain ⟨c, hc, hnegative⟩ := hp
    by_contra hno
    have hnot := h.symm.forall_aspect (P := fun a => ¬ a.2.1.isNegative = true)
      (fun d hd hd' => hno ⟨d, hd, hd'⟩) c hc
    exact hnot hnegative

theorem summary_eq (h : p.ReviewedAlike q) : p.summary = q.summary := by
  have hfilter : p.filterInWords = q.filterInWords := if_congr h.conditions_eq_nil_iff rfl rfl
  have hsorting : p.sortingInWords = q.sortingInWords := by
    rw [sortingInWords, h.sorting, sortingInWords]
  have hlimit : p.limitInWords = q.limitInWords := by rw [limitInWords, h.limit, limitInWords]
  rw [summary, summary, h.target, fieldsInWords_congr h.width h.only, hfilter, hsorting, hlimit]

theorem review_eq (h : p.ReviewedAlike q) (settings : Settings) (catalog : Catalog) :
    p.review settings catalog = q.review settings catalog := by
  have hfindings : p.findings settings catalog = q.findings settings catalog :=
    findings_congr fun r => ⟨h.holds, h.symm.holds⟩
  rw [review, review, grade, grade, hfindings, h.summary_eq]

end ReviewedAlike

theorem reviewedAlike_effective (q : Query) : (q.withLimit q.rowLimit?).ReviewedAlike q where
  target := rfl
  conditions _ := Iff.rfl
  width := rfl
  only _ := rfl
  sorting := rfl
  limit := effective_effective q.limit

/-! ### a higher limit -/

/-- whether the limit sent for the one goes up or away for the other -/
def Lifts (l l' : Option Nat) : Prop := ∀ n' ∈ effective l', ∃ n ∈ effective l, n ≤ n'

theorem Rule.Holds.of_lifts (hl : Lifts l l')
    (h : r.Holds settings catalog (q.withLimit l)) :
    r.Holds settings catalog (q.withLimit l') := by
  cases r with
  | unbounded =>
    intro n' hn'
    obtain ⟨n, hn, hle⟩ := hl n' hn'
    exact Nat.lt_of_lt_of_le (h n hn) hle
  | _ => exact h

/-! ### all of it together -/

/-- **The review goes by its rules.**  A query is poor if a condition excludes values; otherwise
fair if it is filtered without an index or has no limit or a high one; otherwise good.  The tips are
those of the rules that hold, in the order of the rules and each once.  Queries that the review sees
alike have one verdict, so conditions may be reordered, repeated and joined otherwise, fields be
reordered, and the rows be sorted the other way or from another offset; and a higher limit makes the
grade no better and takes no tip away. -/
theorem review_of_rules (settings : Settings) (catalog : Catalog) (q : Query) :
    let verdict := q.review settings catalog
    (verdict.grade = .poor ↔ Rule.negative.Holds settings catalog q) ∧
      (verdict.grade = .fair ↔ ¬ Rule.negative.Holds settings catalog q ∧
        (Rule.unindexed.Holds settings catalog q ∨ Rule.unbounded.Holds settings catalog q)) ∧
      (verdict.grade = .good ↔ ¬ Rule.negative.Holds settings catalog q ∧
        ¬ Rule.unindexed.Holds settings catalog q ∧ ¬ Rule.unbounded.Holds settings catalog q) ∧
      (∀ tip, tip ∈ verdict.tips ↔ ∃ r : Rule, r.Holds settings catalog q ∧ r.tip = tip) ∧
      verdict.tips.Sublist (Rule.all.map (·.tip)) ∧ verdict.tips.Nodup ∧
      (∀ p : Query, p.ReviewedAlike q → p.review settings catalog = verdict) ∧
      (∀ cs fields direction offset,
        (∀ a, a ∈ cs.map Condition.aspect ↔ a ∈ q.conditions.map Condition.aspect) →
        fields.Perm q.fields →
        { q with conditions := cs, fields, direction, offset }.review settings catalog = verdict) ∧
      ∀ l l', Lifts l l' →
        ((q.withLimit l).review settings catalog).grade.rank ≤
            ((q.withLimit l').review settings catalog).grade.rank ∧
          ((q.withLimit l).review settings catalog).tips.Sublist
            ((q.withLimit l').review settings catalog).tips := by
  intro verdict
  have hdistinct : (Rule.all.map (·.tip)).Nodup := by decide
  refine ⟨grade_eq_poor_iff, grade_eq_fair_iff, grade_eq_good_iff, fun _ => mem_tips_iff,
    tips_sublist settings catalog q, hdistinct.sublist (tips_sublist settings catalog q),
    fun p hp => hp.review_eq settings catalog, ?changed, ?lifted⟩
  case changed =>
    intro cs fields direction offset hcs hfields
    have halike : { q with conditions := cs, fields, direction, offset }.ReviewedAlike q := by
      refine ⟨rfl, hcs, hfields.length_eq, fun hone => ?_, rfl, rfl⟩
      obtain ⟨field, rfl⟩ := List.length_eq_one_iff.mp hone
      exact List.singleton_perm.mp hfields
    exact halike.review_eq settings catalog
  case lifted =>
    intro l l' hl
    exact ⟨rank_grade_le fun r hr => hr.of_lifts hl,
      (findings_sublist fun r hr => hr.of_lifts hl).map _⟩

/-- conditions in another order and one of them twice with other values, fields in another order;
and a limit that goes away -/
theorem review_of_rules_reordered :
    let catalog := Catalog.ofFields "Account" [.plain "Size" .number]
    let named := Condition.make "Name" .equal "Acme" .and
    let sized := Condition.make "Size" .notEqual "" .and
    let q := (((ofEntity "Account").select ["Id", "Name"]).filterBy named).filterBy sized
    let q' := { q with
      conditions := [sized, { named with value := "Other" }, { named with connective := .or }]
      fields := ["Name", "Id"], direction := .descending, offset := 5 }
    q'.review .standard catalog = q.review .standard catalog ∧
      (q.review .standard catalog).grade = .poor ∧
      ((q.withLimit (some 10000)).review .standard catalog).tips.Sublist
        ((q.withLimit none).review .standard catalog).tips := by
  intro catalog named sized q q'
  obtain ⟨hpoor, -, -, -, -, -, -, hchanged, hlifted⟩ := review_of_rules .standard catalog q
  refine ⟨hchanged _ _ _ _ ?_ ?_, hpoor.mpr ⟨sized, by decide, by decide⟩, (hlifted _ _ ?_).2⟩
  · have hsub : ∀ a ∈ q'.conditions.map Condition.aspect, a ∈ q.conditions.map Condition.aspect := by
      decide
    have hsup : ∀ a ∈ q.conditions.map Condition.aspect, a ∈ q'.conditions.map Condition.aspect := by
      decide
    exact fun a => ⟨hsub a, hsup a⟩
  · exact List.Perm.swap _ _ _
  · exact nofun

end Query

end SoqlForm
