import SoqlForm.Catalog
import SoqlForm.Proofs.Keyed

/-!
# Looking a field up

A table made from a list gives the last value bound to a name, so a catalog gives the last field of
a name.
-/

namespace SoqlForm

theorem lookup_map_name (fields : List Field) (name : String) :
    (fields.map fun f => (f.name, f)).lookup name = fields.find? (·.name == name) := by
  induction fields with
  | nil => rfl
  | cons f fields ih =>
    rw [List.map_cons, lookup_cons, ih, List.find?_cons]
    by_cases h : name = f.name
    · subst h
      simp
    · have h' : (f.name == name) = false := beq_eq_false_iff_ne.mpr (Ne.symm h)
      rw [if_neg h, h']

namespace Catalog

theorem find?_ofFields (entity : String) (fields : List Field) (name : String) :
    (ofFields entity fields).find? name = fields.reverse.find? (·.name == name) := by
  show (Keyed.ofList _).find? name = _
  rw [Keyed.find?_ofList, ← List.map_reverse, lookup_map_name]

theorem find?_ofFields_eq_none {entity : String} {fields : List Field} {name : String}
    (h : ∀ f ∈ fields, f.name ≠ name) : (ofFields entity fields).find? name = none := by
  rw [find?_ofFields, List.find?_eq_none]
  intro f hf
  rw [beq_iff_eq]
  exact h f (List.mem_reverse.mp hf)

end Catalog

end SoqlForm
