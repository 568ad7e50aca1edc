import SoqlForm.Proofs.Keyed
import Std.Data.HashMap.Lemmas

/-!
# A table in two parts

A table may be kept as a list of its names, in order, with a hash table beside it in which a value
is looked up by its name.  A binding goes to both: the hash table takes the value, and the list
takes the name unless the hash table has it already.

* `Keyed.Hashed`      a list and a hash table hold what a table holds;
* `Hashed.mem_iff`    the hash table has the names of the table;
* `hashed_empty`, `Hashed.insert`   two empty parts, and two parts behind one more binding.
-/

namespace SoqlForm.Keyed

variable {α : Type}

/-- a list of names and a hash table hold what a table holds -/
structure Hashed (t : Keyed α) (order : List String) (byName : Std.HashMap String α) : Prop where
  keys : order = t.keys
  find? : ∀ key, byName[key]? = t.find? key
  size : byName.size = t.size

theorem hashed_empty : (empty : Keyed α).Hashed [] ∅ :=
  ⟨rfl, fun _ => Std.HashMap.getElem?_empty, Std.HashMap.size_empty⟩

variable {t : Keyed α} {order : List String} {byName : Std.HashMap String α}

theorem Hashed.mem_iff (h : t.Hashed order byName) (key : String) :
    key ∈ byName ↔ key ∈ t.keys := by
  rw [Std.HashMap.mem_iff_isSome_getElem?, h.find?]
  exact t.isSome_find?_iff key

theorem Hashed.insert (h : t.Hashed order byName) (key : String) (value : α) :
    (t.insert key value).Hashed (if key ∈ byName then order else order ++ [key])
      (byName.insert key value) where
  keys := by
    rw [keys_insert, h.keys]
    exact if_congr (h.mem_iff key) rfl rfl
  find? k := by
    rw [Std.HashMap.getElem?_insert, find?_insert]
    refine if_congr ?_ rfl (h.find? k)
    rw [beq_iff_eq, eq_comm]
  size := by
    rw [Std.HashMap.size_insert, size_insert, h.size]
    exact if_congr (h.mem_iff key) rfl rfl

end SoqlForm.Keyed
