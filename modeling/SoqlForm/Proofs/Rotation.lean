import SoqlForm.Rotation
import Mathlib.Data.List.Rotate
import Mathlib.Logic.Function.Iterate

/-!
# Tips in rotation, from the first one on

* `iterate_advance_start`      where a rotation stands behind some advances;
* `current?_iterate_advance`   the tip that it shows there;
* `iterate_advance_size`       behind as many advances as there are tips it stands as before;
* `positions_visited`, `tips_visited`   the positions and the tips on the way.
-/

namespace SoqlForm.Rotation

variable {tips : List String}

theorem iterate_advance_nil (k : Nat) : advance^[k] (start []) = start [] :=
  Function.iterate_fixed (advance_nil 0) k

theorem iterate_advance_start (h : tips ≠ []) (k : Nat) :
    advance^[k] (start tips) = ⟨tips, k % tips.length⟩ := by
  induction k with
  | zero => rw [Nat.zero_mod]; rfl
  | succ k ih =>
    rw [Function.iterate_succ_apply', ih, advance, if_neg h]
    show (⟨tips, (k % tips.length + 1) % tips.length⟩ : Rotation) = _
    rw [Nat.mod_add_mod]

theorem current?_iterate_advance (tips : List String) (k : Nat) :
    (advance^[k] (start tips)).current? = tips[k % tips.length]? := by
  by_cases h : tips = []
  · rw [h, iterate_advance_nil]
    rfl
  · rw [iterate_advance_start h]
    rfl

theorem current?_eq_none_iff (tips : List String) (k : Nat) :
    (advance^[k] (start tips)).current? = none ↔ tips = [] := by
  rw [current?_iterate_advance, List.getElem?_eq_none_iff]
  constructor
  · intro h
    by_contra hne
    exact Nat.not_le_of_lt (Nat.mod_lt k (List.length_pos_iff.mpr hne)) h
  · rintro rfl
    exact Nat.zero_le _

/-- behind as many advances as there are tips a rotation stands as before -/
theorem iterate_advance_size (tips : List String) (k : Nat) :
    advance^[tips.length] (advance^[k] (start tips)) = advance^[k] (start tips) := by
  rw [← Function.iterate_add_apply]
  by_cases h : tips = []
  · rw [h, iterate_advance_nil, iterate_advance_nil]
  · rw [iterate_advance_start h, iterate_advance_start h, Nat.add_mod_left]

/-- on the way each position is visited, beginning with the next one -/
theorem positions_visited (tips : List String) (k : Nat) :
    ((List.range tips.length).map fun i =>
        (advance^[i + 1] (advance^[k] (start tips))).position)
      = (List.range tips.length).rotate (k + 1) := by
  apply List.ext_getElem
  · rw [List.length_map, List.length_rotate]
  · intro i hi _
    rw [List.length_map, List.length_range] at hi
    have hne : tips ≠ [] := List.length_pos_iff.mp (Nat.zero_lt_of_lt hi)
    rw [List.getElem_map, List.getElem_range, List.getElem_rotate, List.getElem_range,
      List.length_range, ← Function.iterate_add_apply, iterate_advance_start hne,
      Nat.add_assoc, Nat.add_comm 1 k]

/-- and each tip is shown, beginning with the next one -/
theorem tips_visited (tips : List String) (k : Nat) :
    ((List.range tips.length).map fun i =>
        (advance^[i + 1] (advance^[k] (start tips))).current?)
      = (tips.rotate (k + 1)).map some := by
  apply List.ext_getElem
  · rw [List.length_map, List.length_map, List.length_rotate, List.length_range]
  · intro i hi _
    rw [List.length_map, List.length_range] at hi
    rw [List.getElem_map, List.getElem_range, List.getElem_map, List.getElem_rotate,
      ← Function.iterate_add_apply, current?_iterate_advance, Nat.add_assoc, Nat.add_comm 1 k,
      List.getElem?_eq_getElem]

end SoqlForm.Rotation
