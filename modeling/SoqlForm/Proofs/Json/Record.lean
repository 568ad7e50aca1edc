import SoqlForm.Json.Record
import Mathlib.Data.List.Nodup
import Mathlib.Data.List.Perm.Subperm

/-!
# JSON: what is encoded is decoded

* `list?_map`, `optional?_ofOption`, `natBelow?_ofNat`   values of a shape are decoded from their
                            encodings;
* `Entries.read?_record`    the entries of a record, whatever members of other names stand between
                            them;
* `Entries.default?_of_subset`   an entry that is given is decoded, an entry that is left out takes
                            its default.
-/

namespace SoqlForm.Json

variable {α : Type} {encode : α → Json} {decode : Json → Option α}

/-! ### values of a shape -/

theorem list?_map (h : ∀ a, decode (encode a) = some a) (as : List α) :
    (Json.array (as.map encode)).list? decode = some as := by
  have hid : decode ∘ encode = fun a => pure a := funext h
  rw [list?, List.mapM_map, hid, List.mapM_pure, List.map_id']
  rfl

theorem list?_strings (ss : List String) : (strings ss).list? text? = some ss :=
  list?_map text?_string ss

theorem optional?_ofOption (h : ∀ a, decode (encode a) = some a) (hnull : ∀ a, encode a ≠ null)
    (o : Option α) : (ofOption encode o).optional? decode = some o := by
  cases o with
  | none => rfl
  | some a =>
    show (encode a).optional? decode = _
    unfold optional?
    split
    · next heq => exact absurd heq (hnull a)
    · rw [h, Option.map_some]

theorem natBelow?_ofNat {n bound : Nat} (hn : n < bound) :
    (ofNat n).natBelow? bound = some n := by
  have hliteral : (ofNat n).integer? = some (n : Int) := integer?_ofInt n
  rw [natBelow?, hliteral]
  show (if (0 : Int) ≤ n ∧ (n : Int) < bound then some (n : Int).toNat else none) = _
  rw [if_pos (by omega), Int.toNat_natCast]

/-! ### entries -/

theorem knownMembers?_record (names : List String) (ms : List (String × Json)) :
    knownMembers? names (ms.map fun m => (some m.1, m.2))
      = some (ms.filter (names.contains ·.1)) := by
  induction ms with
  | nil => rfl
  | cons m ms ih =>
    rw [List.map_cons, knownMembers?, ih, Option.map_some, List.filter_cons]

namespace Entries

variable {es ms : Entries} {name : String} {v : Json} {a : α}

theorem read?_record {names : List String} {ms : List (String × Json)}
    (h : ((ms.filter (names.contains ·.1)).map Prod.fst).Nodup) :
    read? names (record ms) = some (ms.filter (names.contains ·.1)) := by
  have hdistinct : isDistinct (ms.filter (names.contains ·.1)) = true := decide_eq_true h
  rw [record, read?, knownMembers?_record]
  show (if isDistinct _ then some _ else none) = _
  rw [if_pos hdistinct]

/-- the record that is written has its entries, and no others -/
theorem read?_record_self {names : List String} (hnames : names.Nodup) (h : ms.map Prod.fst = names) :
    read? names (record ms) = some ms := by
  have hall : ms.filter (names.contains ·.1) = ms := by
    rw [List.filter_eq_self]
    intro m hm
    rw [List.contains_iff_mem, ← h]
    exact List.mem_map_of_mem hm
  have hdistinct : ((ms.filter (names.contains ·.1)).map Prod.fst).Nodup := by
    rw [hall, h]
    exact hnames
  rw [read?_record hdistinct, hall]

/-- some of the entries, in any order, have distinct names as all of them do -/
theorem nodup_of_subperm (hsub : es.Subperm ms) (hms : (ms.map Prod.fst).Nodup) :
    (es.map Prod.fst).Nodup := by
  obtain ⟨es', hperm, hsub⟩ := hsub
  exact (hperm.map Prod.fst).nodup_iff.mp ((hsub.map Prod.fst).nodup hms)

theorem mem_of_lookup (h : List.lookup name es = some v) : (name, v) ∈ es := by
  obtain ⟨es₁, es₂, rfl, _⟩ := List.lookup_eq_some_iff.mp h
  exact List.mem_append_right _ List.mem_cons_self

/-- among entries of distinct names, an entry is found if it is given -/
theorem lookup_of_subset (hsub : es ⊆ ms) (hms : (ms.map Prod.fst).Nodup) (hv : (name, v) ∈ ms) :
    List.lookup name es = if name ∈ es.map Prod.fst then some v else none := by
  cases hlookup : List.lookup name es with
  | none =>
    rw [if_neg]
    intro hname
    obtain ⟨e, he, rfl⟩ := List.mem_map.mp hname
    simpa using List.lookup_eq_none_iff.mp hlookup e he
  | some w =>
    have hw := mem_of_lookup hlookup
    have hsame := List.inj_on_of_nodup_map hms (hsub hw) hv rfl
    rw [if_pos (List.mem_map_of_mem hw), (Prod.mk.inj hsame).2]

theorem default?_of_subset (hsub : es ⊆ ms) (hms : (ms.map Prod.fst).Nodup)
    (hv : (name, v) ∈ ms) (hdecode : decode v = some a) (default : α) :
    es.default? name decode default = some (if name ∈ es.map Prod.fst then a else default) := by
  rw [default?, lookup_of_subset hsub hms hv]
  by_cases hname : name ∈ es.map Prod.fst
  · rw [if_pos hname, if_pos hname]
    exact hdecode
  · rw [if_neg hname, if_neg hname]

end Entries

end SoqlForm.Json
