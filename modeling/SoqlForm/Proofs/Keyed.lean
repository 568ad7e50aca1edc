import SoqlForm.Keyed
import Mathlib.Data.Finset.Card
import Mathlib.Data.List.Induction

/-!
# Tables made from a list of bindings

A list may bind a name several times.  The table made from it has the name once, in the place of
its first binding and with the value of its last one.

* `OnceInOrder`          the distinct elements of a list, in the order in which they first occur;
* `lastValue?`           the value that a list of bindings gives to a name last;
* `Keyed.keys_ofList`, `Keyed.find?_ofList`   the names of a table made from a list, and their
                         values;
* `Keyed.eq_of_find?`    a table is determined by its names and their values;
* `Keyed.map_find?_keys`   the values of a table are those found under its names, one for each.
-/

namespace SoqlForm

/-! ### first occurrences -/

/-- a list has the elements of another one once each, in the order in which they first occur there -/
structure OnceInOrder (kept all : List String) : Prop where
  nodup : kept.Nodup
  mem_iff : ∀ {key}, key ∈ kept ↔ key ∈ all
  ordered : kept.Pairwise fun a b => all.idxOf a < all.idxOf b

theorem onceInOrder_nil : OnceInOrder [] [] := ⟨.nil, .rfl, .nil⟩

section
variable {kept all : List String} {key : String}

theorem OnceInOrder.ordered_concat (h : OnceInOrder kept all) (key : String) :
    kept.Pairwise fun a b => (all ++ [key]).idxOf a < (all ++ [key]).idxOf b := by
  refine h.ordered.imp_of_mem ?_
  intro a b ha hb hlt
  rwa [List.idxOf_append_of_mem (h.mem_iff.mp ha), List.idxOf_append_of_mem (h.mem_iff.mp hb)]

theorem OnceInOrder.concat (h : OnceInOrder kept all) (key : String) :
    OnceInOrder (if key ∈ kept then kept else kept ++ [key]) (all ++ [key]) := by
  split
  · next old =>
    refine ⟨h.nodup, ?_, h.ordered_concat key⟩
    intro k
    rw [List.mem_append, List.mem_singleton, ← h.mem_iff]
    exact ⟨.inl, fun hk => hk.elim id fun hk => hk ▸ old⟩
  · next new =>
    refine ⟨List.concat_eq_append ▸ h.nodup.concat new, ?_,
      List.pairwise_append.mpr ⟨h.ordered_concat key, List.pairwise_singleton _ _, ?_⟩⟩
    · intro k
      rw [List.mem_append, List.mem_append, h.mem_iff]
    · intro a ha b hb
      rw [List.mem_singleton.mp hb, List.idxOf_append_of_mem (h.mem_iff.mp ha),
        List.idxOf_append_of_notMem fun hkey => new (h.mem_iff.mpr hkey)]
      exact Nat.lt_add_right _ (List.idxOf_lt_length_of_mem (h.mem_iff.mp ha))

theorem OnceInOrder.length (h : OnceInOrder kept all) : kept.length = all.toFinset.card := by
  have same : kept.toFinset = all.toFinset := by
    ext key
    rw [List.mem_toFinset, List.mem_toFinset, h.mem_iff]
  rw [← same, List.toFinset_card_of_nodup h.nodup]

/-- the order of first occurrence leaves no choice -/
theorem OnceInOrder.unique {kept' : List String} (h : OnceInOrder kept all)
    (h' : OnceInOrder kept' all) : kept = kept' := by
  have same : kept.Perm kept' := by
    rw [List.perm_ext_iff_of_nodup h.nodup h'.nodup]
    exact fun key => h.mem_iff.trans h'.mem_iff.symm
  refine same.eq_of_pairwise ?_ h.ordered h'.ordered
  intro a b _ _ hab hba
  exact absurd hba (Nat.lt_asymm hab)

theorem OnceInOrder.eq_nil_iff (h : OnceInOrder kept all) : kept = [] ↔ all = [] := by
  rw [List.eq_nil_iff_forall_not_mem, List.eq_nil_iff_forall_not_mem]
  exact forall_congr' fun _ => not_congr h.mem_iff

end

/-! ### bindings -/

variable {α : Type}

theorem mem_bindKey {key : String} {value : α} {es : List (String × α)} {e : String × α}
    (he : e ∈ bindKey key value es) : e = (key, value) ∨ e ∈ es := by
  induction es with
  | nil => exact .inl (List.mem_singleton.mp he)
  | cons d es ih =>
    rw [bindKey] at he
    split at he
    · exact (List.mem_cons.mp he).imp_right (List.mem_cons_of_mem d)
    · rcases List.mem_cons.mp he with rfl | he
      · exact .inr List.mem_cons_self
      · exact (ih he).imp_right (List.mem_cons_of_mem d)

theorem lookup_of_mem {es : List (String × α)} (distinct : (es.map Prod.fst).Nodup)
    {e : String × α} (he : e ∈ es) : es.lookup e.1 = some e.2 := by
  induction es with
  | nil => cases he
  | cons d es ih =>
    obtain ⟨k, v⟩ := d
    rw [List.map_cons, List.nodup_cons] at distinct
    rw [lookup_cons]
    rcases List.mem_cons.mp he with rfl | he
    · exact if_pos rfl
    · have hne : e.1 ≠ k := by
        intro heq
        exact distinct.1 (List.mem_map.mpr ⟨e, he, heq⟩)
      rw [if_neg hne, ih distinct.2 he]

namespace Keyed

/-- every name has a value, and the values stand in the order of the names -/
theorem map_find?_keys (t : Keyed α) : t.keys.map t.find? = t.values.map some := by
  rw [keys, values, List.map_map, List.map_map]
  exact List.map_congr_left fun e he => lookup_of_mem t.distinct he

theorem isSome_find?_iff (t : Keyed α) (key : String) : (t.find? key).isSome ↔ key ∈ t.keys := by
  rw [find?, List.lookup_isSome_iff, keys, List.mem_map]
  simp only [beq_iff_eq, @eq_comm _ key]

theorem size_insert (t : Keyed α) (key : String) (value : α) :
    (t.insert key value).size = if key ∈ t.keys then t.size else t.size + 1 := by
  rw [← length_keys, ← length_keys, keys_insert]
  split
  · rfl
  · exact List.length_append

theorem ofList_concat (es : List (String × α)) (e : String × α) :
    ofList (es ++ [e]) = (ofList es).insert e.1 e.2 := by
  rw [ofList, List.foldl_append]
  rfl

theorem find?_ofList (es : List (String × α)) (key : String) :
    (ofList es).find? key = es.reverse.lookup key := by
  induction es using List.reverseRecOn with
  | nil => rfl
  | append_singleton es e ih =>
    rw [ofList_concat, find?_insert, ih, List.reverse_append, List.reverse_singleton,
      List.singleton_append, lookup_cons]

theorem keys_ofList (es : List (String × α)) :
    OnceInOrder (ofList es).keys (es.map Prod.fst) := by
  induction es using List.reverseRecOn with
  | nil => exact onceInOrder_nil
  | append_singleton es e ih =>
    rw [ofList_concat, keys_insert, List.map_append]
    exact ih.concat e.1

theorem mem_of_mem_ofList {es : List (String × α)} {e : String × α}
    (he : e ∈ (ofList es).entries) : e ∈ es := by
  induction es using List.reverseRecOn with
  | nil => cases he
  | append_singleton es d ih =>
    rw [ofList_concat] at he
    rcases mem_bindKey he with rfl | he
    · exact List.mem_append_right _ (List.mem_singleton_self _)
    · exact List.mem_append_left _ (ih he)

end Keyed

end SoqlForm
