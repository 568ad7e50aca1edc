import SoqlForm.Proofs.Session.History
import SoqlForm.Proofs.Session.Parts
import Mathlib.Data.List.Nodup

/-!
# The selected fields

A field is checked and unchecked by itself, all fields of the catalog are selected at once, or none;
a selection of an entity begins with none.  The latest of these steps that concerns a field decides
whether it is selected, and the fields stand in the order in which they were selected.

* `Event.decides?`, `Event.turns?`   what an event decides about a field, and whether its selection
                       begins or ends there;
* `Form.fieldsAfter`, `Move.fields`   the selected fields behind an event;
* `told?`, `LatestTrue`   what is told of the steps of a run by position, and the latest of them;
* `mem_fields_iff`     a field is selected if the latest step that tells of it says so;
* `select_list_after`   the selected fields and their order, on every run.
-/

namespace SoqlForm

/-! ### one event -/

namespace Event

/-- whether a field is selected behind an event, when this does not depend on what was selected
before it -/
def decides? (name : String) (f : Form) : Event → Option Bool
  | .edit (.toggleField other checked) => if other = name then some checked else none
  | .edit .selectAllFields => some (f.catalog.names.contains name)
  | .edit .clearFields => some false
  | .select _ => some false
  | _ => none

/-- whether an event begins the selection of a field or ends it; one that is checked once more is
left as it is, while all fields together are selected anew -/
def turns? (name : String) (f : Form) : Event → Option Bool
  | .edit (.toggleField other true) => if other = name ∧ name ∉ f.fields then some true else none
  | e => e.decides? name f

/-- a field is left as it is by a check while it is selected, and by what decides nothing -/
theorem turns?_eq (name : String) (f : Form) (e : Event) :
    e.turns? name f = e.decides? name f ∨
      e.turns? name f = none ∧ e.decides? name f = some true ∧ name ∈ f.fields := by
  unfold turns?
  split
  · next other =>
    by_cases hother : other = name
    · by_cases hname : name ∈ f.fields
      · exact .inr ⟨if_neg fun h => h.2 hname, if_pos hother, hname⟩
      · exact .inl ((if_pos ⟨hother, hname⟩).trans (if_pos hother).symm)
    · exact .inl ((if_neg fun h => hother h.1).trans (if_neg hother).symm)
  · exact .inl rfl

end Event

/-- the selected fields behind an event -/
def Form.fieldsAfter (f : Form) : Event → List String
  | .edit (.toggleField name checked) => Edit.toggle name checked f.fields
  | .edit .selectAllFields => f.catalog.names
  | .edit .clearFields => []
  | .select _ => []
  | _ => f.fields

namespace Edit

theorem toggle_true (name : String) (fields : List String) :
    toggle name true fields = if name ∈ fields then fields else fields ++ [name] := by
  simp only [toggle, if_true, List.contains_iff_mem]

theorem toggle_false (name : String) (fields : List String) :
    toggle name false fields = fields.filter (· != name) := rfl

theorem mem_toggle_iff {name other : String} {checked : Bool} {fields : List String} :
    name ∈ toggle other checked fields ↔
      if other = name then checked = true else name ∈ fields := by
  cases checked with
  | true =>
    rw [toggle_true]
    split <;> grind
  | false =>
    rw [toggle_false, List.mem_filter, bne_iff_ne]
    grind

theorem nodup_toggle {fields : List String} (h : fields.Nodup) (name : String) (checked : Bool) :
    (toggle name checked fields).Nodup := by
  cases checked with
  | true =>
    rw [toggle_true]
    split
    · exact h
    · next new => exact List.concat_eq_append ▸ h.concat new
  | false => exact h.filter _

end Edit

namespace Form

variable {f : Form} {e : Event} {name a b : String}

theorem nodup_fieldsAfter (h : f.fields.Nodup) (e : Event) : (f.fieldsAfter e).Nodup := by
  cases e with
  | edit e =>
    cases e with
    | toggleField name checked => exact Edit.nodup_toggle h name checked
    | selectAllFields => exact f.catalog.nodup_names
    | clearFields => exact .nil
    | _ => exact h
  | select _ => exact .nil
  | _ => exact h

theorem mem_fieldsAfter_iff (name : String) (f : Form) (e : Event) :
    name ∈ f.fieldsAfter e ↔
      e.decides? name f = some true ∨ e.decides? name f = none ∧ name ∈ f.fields := by
  have undecided : name ∈ f.fields ↔
      (none : Option Bool) = some true ∨ (none : Option Bool) = none ∧ name ∈ f.fields := by simp
  cases e with
  | edit e =>
    cases e with
    | toggleField other checked =>
      show name ∈ Edit.toggle other checked f.fields ↔
        (if _ then _ else _) = some true ∨ (if _ then _ else _) = none ∧ _
      rw [Edit.mem_toggle_iff]
      split <;> simp
    | selectAllFields => simp [fieldsAfter, Event.decides?]
    | clearFields => simp [fieldsAfter, Event.decides?]
    | _ => exact undecided
  | select _ => simp [fieldsAfter, Event.decides?]
  | _ => exact undecided

theorem mem_fieldsAfter_iff_turns (name : String) (f : Form) (e : Event) :
    name ∈ f.fieldsAfter e ↔
      e.turns? name f = some true ∨ e.turns? name f = none ∧ name ∈ f.fields := by
  rw [mem_fieldsAfter_iff]
  rcases e.turns?_eq name f with same | ⟨turns, decides, selected⟩
  · rw [same]
  · simp [turns, decides, selected]

/-- the fields keep their order: those that are left as they are stand as before, one that is newly
checked comes last, and fields that are selected at once stand as in the catalog -/
theorem pairwise_fieldsAfter {R R' : String → String → Prop} (h : f.fields.Pairwise R)
    (kept : ∀ {a b}, e.turns? a f = none → e.turns? b f = none → R a b → R' a b)
    (added : ∀ {a b}, a ∈ f.fields → e.turns? a f = none → e.turns? b f = some true → R' a b)
    (together : ∀ {a b}, e.turns? a f = some true → e.turns? b f = some true →
      [a, b].Sublist f.catalog.names → R' a b) :
    (f.fieldsAfter e).Pairwise R' := by
  have unturned : (∀ name, e.turns? name f = none) → f.fields.Pairwise R' := by
    intro none
    exact h.imp fun hab => kept (none _) (none _) hab
  cases e with
  | edit e =>
    cases e with
    | toggleField name checked =>
      cases checked with
      | true =>
        show (Edit.toggle name true f.fields).Pairwise R'
        rw [Edit.toggle_true]
        have standing : ∀ {a}, a ∈ f.fields →
            Event.turns? a f (.edit (.toggleField name true)) = none :=
          fun ha => if_neg fun hn => hn.2 ha
        have still : f.fields.Pairwise R' :=
          h.imp_of_mem fun ha hb hab => kept (standing ha) (standing hb) hab
        split
        · exact still
        -- the checked field comes last, behind all that stay
        · next new =>
          refine List.pairwise_append.mpr ⟨still, List.pairwise_singleton _ _, ?_⟩
          intro a ha b hb
          rw [List.mem_singleton.mp hb]
          exact added ha (standing ha) (if_pos ⟨rfl, new⟩)
      | false =>
        have standing : ∀ {a}, a ∈ f.fields.filter (· != name) →
            Event.turns? a f (.edit (.toggleField name false)) = none := by
          intro a ha
          exact if_neg (bne_iff_ne.mp (List.mem_filter.mp ha).2).symm
        exact (h.filter _).imp_of_mem fun ha hb hab => kept (standing ha) (standing hb) hab
    | selectAllFields =>
      refine List.pairwise_iff_forall_sublist.mpr fun {a b} hab => ?_
      have chosen : ∀ {name}, name ∈ [a, b] →
          Event.turns? name f (.edit .selectAllFields) = some true :=
        fun hname => congrArg some (List.contains_iff_mem.mpr (hab.subset hname))
      exact together (chosen (by simp)) (chosen (by simp)) hab
    | clearFields => exact .nil
    | _ => exact unturned fun _ => rfl
  | select _ => exact .nil
  | _ => exact unturned fun _ => rfl

end Form

namespace Session

variable {setup : Setup} {s s' : Session} {e : Event} {r : Response}

theorem Move.fields (m : Move setup s e r s') : s'.form.fields = s.form.fieldsAfter e := by
  cases m with
  | edited made =>
    rename_i e answer form
    show form.fields = s.form.fieldsAfter (.edit e)
    by_cases hp : e.part = .fields
    · cases e with
      | toggleField _ _ => cases made; rfl
      | selectAllFields => cases made; rfl
      | clearFields => cases made; rfl
      | _ => cases hp
    · have kept : form.fields = s.form.fields := Edit.get_of_made made hp
      rw [kept]
      cases e with
      | toggleField _ _ => exact absurd rfl hp
      | selectAllFields => exact absurd rfl hp
      | clearFields => exact absurd rfl hp
      | _ => rfl
  | refused failed =>
    rename_i e x
    cases e with
    | toggleField _ _ => cases failed
    | selectAllFields => cases failed
    | clearFields => cases failed
    | _ => rfl
  | tipsLoaded _ => exact congrArg (Query.fields ∘ Sheet.query) (Form.sheet_settleTips _ _)
  | _ => rfl

/-! ### the steps of a run by position -/

/-- what is told of the step at a position of a run, by the form before it and its event -/
def told? (setup : Setup) (es : List Event) (tell : Form → Event → Option Bool) (i : Nat) :
    Option Bool :=
  es[i]?.bind (tell ((fresh setup).after setup (es.take i)).form)

/-- the step at a position is the latest of a run of which anything is told, and true is told of it -/
structure LatestTrue (setup : Setup) (es : List Event) (tell : Form → Event → Option Bool)
    (i : Nat) : Prop where
  here : told? setup es tell i = some true
  silent : ∀ j, i < j → told? setup es tell j = none

variable {es : List Event} {tell : Form → Event → Option Bool} {i j : Nat}

theorem told?_concat_of_lt (h : i < es.length) (e : Event) :
    told? setup (es ++ [e]) tell i = told? setup es tell i := by
  rw [told?, told?, List.getElem?_append_left h, List.take_append_of_le_length (Nat.le_of_lt h)]

theorem told?_concat_length (es : List Event) (e : Event) :
    told? setup (es ++ [e]) tell es.length = tell ((fresh setup).after setup es).form e := by
  rw [told?, List.getElem?_concat_length, List.take_left]
  rfl

theorem told?_of_length_le (h : es.length ≤ i) : told? setup es tell i = none := by
  rw [told?, List.getElem?_eq_none h]
  rfl

theorem LatestTrue.lt_length (h : LatestTrue setup es tell i) : i < es.length := by
  by_contra hle
  have here := h.here
  rw [told?_of_length_le (Nat.le_of_not_lt hle)] at here
  cases here

theorem latestTrue_last (h : tell ((fresh setup).after setup es).form e = some true) :
    LatestTrue setup (es ++ [e]) tell es.length where
  here := (told?_concat_length es e).trans h
  silent j hj := told?_of_length_le (by rw [List.length_append]; exact hj)

theorem LatestTrue.concat (h : LatestTrue setup es tell i)
    (none : tell ((fresh setup).after setup es).form e = none) :
    LatestTrue setup (es ++ [e]) tell i where
  here := (told?_concat_of_lt h.lt_length e).trans h.here
  silent j hj := by
    rcases Nat.lt_trichotomy j es.length with hlt | rfl | hgt
    · rw [told?_concat_of_lt hlt]
      exact h.silent j hj
    · rw [told?_concat_length, none]
    · exact told?_of_length_le (by rw [List.length_append]; exact hgt)

theorem exists_latestTrue_concat :
    (∃ i, LatestTrue setup (es ++ [e]) tell i) ↔
      tell ((fresh setup).after setup es).form e = some true ∨
        tell ((fresh setup).after setup es).form e = none ∧ ∃ i, LatestTrue setup es tell i := by
  constructor
  · rintro ⟨i, h⟩
    have hlt : i < (es ++ [e]).length := h.lt_length
    rw [List.length_append] at hlt
    -- nothing is told of the last step, unless it is the latest one itself
    rcases Nat.lt_or_eq_of_le (Nat.le_of_lt_succ hlt) with hlt | rfl
    · right
      have last := h.silent es.length hlt
      rw [told?_concat_length] at last
      refine ⟨last, i, ?_, ?_⟩
      · rw [← told?_concat_of_lt hlt e]
        exact h.here
      · intro j hj
        by_cases hjlt : j < es.length
        · rw [← told?_concat_of_lt hjlt e]
          exact h.silent j hj
        · exact told?_of_length_le (Nat.le_of_not_lt hjlt)
    · exact .inl ((told?_concat_length es e).symm.trans h.here)
  · rintro (here | ⟨none, i, h⟩)
    · exact ⟨es.length, latestTrue_last here⟩
    · exact ⟨i, h.concat none⟩

/-! ### along a run -/

theorem fields_after_concat (setup : Setup) (es : List Event) (e : Event) :
    ((fresh setup).after setup (es ++ [e])).form.fields
      = ((fresh setup).after setup es).form.fieldsAfter e := by
  rw [after_concat]
  exact (step_move setup _ e).fields

theorem nodup_fields_after (setup : Setup) (es : List Event) :
    ((fresh setup).after setup es).form.fields.Nodup := by
  induction es using List.reverseRecOn with
  | nil => exact .nil
  | append_singleton es e ih =>
    rw [fields_after_concat]
    exact Form.nodup_fieldsAfter ih e

/-- what tells of every event whether a field is selected behind it, or that the event leaves this
as it is, tells so of a run -/
theorem mem_fields_iff {name : String}
    (tells : ∀ f e, name ∈ Form.fieldsAfter f e ↔
      tell f e = some true ∨ tell f e = none ∧ name ∈ f.fields)
    (setup : Setup) (es : List Event) :
    name ∈ ((fresh setup).after setup es).form.fields ↔ ∃ i, LatestTrue setup es tell i := by
  induction es using List.reverseRecOn with
  | nil => exact iff_of_false List.not_mem_nil fun ⟨_, h⟩ => Nat.not_lt_zero _ h.lt_length
  | append_singleton es e ih => rw [fields_after_concat, tells, ih, exists_latestTrue_concat]

/-- whether the selection of a field has begun before that of another one, or at once with it and
the field stands before the other one in the catalog -/
def BegunBefore (setup : Setup) (es : List Event) (a b : String) : Prop :=
  ∃ i j, LatestTrue setup es (Event.turns? a) i ∧ LatestTrue setup es (Event.turns? b) j ∧
    (i < j ∨ i = j ∧ [a, b].Sublist ((fresh setup).after setup (es.take i)).form.catalog.names)

theorem BegunBefore.concat {a b : String} (h : BegunBefore setup es a b)
    (ha : e.turns? a ((fresh setup).after setup es).form = none)
    (hb : e.turns? b ((fresh setup).after setup es).form = none) :
    BegunBefore setup (es ++ [e]) a b := by
  obtain ⟨i, j, hi, hj, hij⟩ := h
  refine ⟨i, j, hi.concat ha, hj.concat hb, ?_⟩
  rwa [List.take_append_of_le_length (Nat.le_of_lt hi.lt_length)]

theorem pairwise_fields_after (setup : Setup) (es : List Event) :
    ((fresh setup).after setup es).form.fields.Pairwise (BegunBefore setup es) := by
  induction es using List.reverseRecOn with
  | nil => exact .nil
  | append_singleton es e ih =>
    rw [fields_after_concat]
    apply Form.pairwise_fieldsAfter ih
    · intro a b ha hb hab
      exact hab.concat ha hb
    · intro a b selected ha hb
      obtain ⟨i, hi⟩ := (mem_fields_iff (Form.mem_fieldsAfter_iff_turns a) setup es).mp selected
      exact ⟨i, es.length, hi.concat ha, latestTrue_last hb, .inl hi.lt_length⟩
    · intro a b ha hb hab
      refine ⟨es.length, es.length, latestTrue_last ha, latestTrue_last hb, .inr ⟨rfl, ?_⟩⟩
      rwa [List.take_left]

/-- **The selected fields on every run.**  No field is selected twice.  A field is selected just if
the latest step that decides about it selects it, and the fields stand in the order in which their
selections have begun, those that have begun at once in the order of the catalog. -/
theorem select_list_after (setup : Setup) (es : List Event) :
    let s := (fresh setup).after setup es
    s.form.fields.Nodup ∧
      (∀ name, name ∈ s.form.fields ↔ ∃ i, LatestTrue setup es (Event.decides? name) i) ∧
      s.form.fields.Pairwise (BegunBefore setup es) :=
  ⟨nodup_fields_after setup es,
    fun name => mem_fields_iff (Form.mem_fieldsAfter_iff name) setup es,
    pairwise_fields_after setup es⟩

/-- of three fields selected at once, one is checked once more, and one is unchecked and checked -/
example :
    let setup : Setup := ⟨.standard, none⟩
    let name : Field := .plain "Name" .text
    ((fresh setup).after setup [.select (some "Account"),
      .answer 0 (.fields (.ok ⟨none, [name, .plain "Id" .text, .plain "Phone" .text, name]⟩)),
      .edit .selectAllFields, .edit (.toggleField "Id" true), .edit (.toggleField "Name" false),
      .edit (.toggleField "Name" true)]).form.fields = ["Id", "Phone", "Name"] := by decide

end Session

end SoqlForm
