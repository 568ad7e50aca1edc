/-!
# Tables keyed by name, in order of first insertion

A `Keyed α` binds distinct names to values.  Binding a name again keeps its place and replaces its
value; a new name goes to the end.

* `Keyed.insert`, `Keyed.ofList`, `Keyed.find?`, `Keyed.keys`;
* `keys_insert`, `find?_insert`   what an insertion does to the names and to a look-up.
-/

namespace SoqlForm

variable {α : Type}

/-! ### bindings as a list -/

/-- binds `key`: in its place when it is bound already, at the end otherwise -/
def bindKey (key : String) (value : α) : List (String × α) → List (String × α)
  | [] => [(key, value)]
  | e :: es => if e.1 = key then (key, value) :: es else e :: bindKey key value es

theorem map_fst_bindKey (key : String) (value : α) (es : List (String × α)) :
    (bindKey key value es).map Prod.fst =
      if key ∈ es.map Prod.fst then es.map Prod.fst else es.map Prod.fst ++ [key] := by
  induction es with
  | nil => simp [bindKey]
  | cons e es ih =>
    by_cases h : e.1 = key
    · simp [bindKey, h]
    · have h' : key ≠ e.1 := Ne.symm h
      simp only [bindKey, if_neg h, List.map_cons, ih, List.mem_cons, h', false_or]
      split <;> rfl

theorem lookup_cons (k key : String) (value : α) (es : List (String × α)) :
    List.lookup k ((key, value) :: es) = if k = key then some value else es.lookup k := by
  by_cases h : k = key
  · simp [h]
  · have hb : (k == key) = false := by simpa using h
    rw [List.lookup_cons, hb, if_neg h]

theorem lookup_bindKey (key k : String) (value : α) (es : List (String × α)) :
    (bindKey key value es).lookup k = if k = key then some value else es.lookup k := by
  induction es with
  | nil => rw [bindKey, lookup_cons]
  | cons e es ih =>
    obtain ⟨k', v'⟩ := e
    by_cases h : k' = key
    · subst h
      rw [bindKey, if_pos rfl, lookup_cons, lookup_cons]
      split <;> rfl
    · rw [bindKey, if_neg h, lookup_cons, lookup_cons, ih]
      by_cases hk : k = k'
      · subst hk; rw [if_pos rfl, if_pos rfl, if_neg h]
      · rw [if_neg hk, if_neg hk]

theorem nodup_bindKey {key : String} {value : α} {es : List (String × α)}
    (h : (es.map Prod.fst).Nodup) : ((bindKey key value es).map Prod.fst).Nodup := by
  rw [map_fst_bindKey]
  split
  · exact h
  · next hk =>
    rw [List.nodup_append]
    refine ⟨h, by simp, ?_⟩
    intro a ha b hb
    rw [List.mem_singleton] at hb
    subst hb
    exact fun e => hk (e ▸ ha)

/-! ### tables -/

/-- distinct names with their values, in order of first insertion -/
structure Keyed (α : Type) where
  entries : List (String × α)
  distinct : (entries.map Prod.fst).Nodup

namespace Keyed

def empty : Keyed α := ⟨[], List.nodup_nil⟩

instance : Inhabited (Keyed α) := ⟨empty⟩

instance [Repr α] : Repr (Keyed α) := ⟨fun t n => reprPrec t.entries n⟩

instance [DecidableEq α] : DecidableEq (Keyed α) := fun s t =>
  if h : s.entries = t.entries then
    isTrue (by obtain ⟨es, _⟩ := s; obtain ⟨fs, _⟩ := t; subst h; rfl)
  else isFalse fun e => h (congrArg entries e)

/-- binds a name, in its place when it is bound already -/
def insert (t : Keyed α) (key : String) (value : α) : Keyed α :=
  ⟨bindKey key value t.entries, nodup_bindKey t.distinct⟩

/-- the bindings of a list, one after the other -/
def ofList (es : List (String × α)) : Keyed α := es.foldl (fun t e => t.insert e.1 e.2) empty

def find? (t : Keyed α) (key : String) : Option α := t.entries.lookup key

def keys (t : Keyed α) : List String := t.entries.map Prod.fst

def values (t : Keyed α) : List α := t.entries.map Prod.snd

def size (t : Keyed α) : Nat := t.entries.length

theorem nodup_keys (t : Keyed α) : t.keys.Nodup := t.distinct

theorem keys_insert (t : Keyed α) (key : String) (value : α) :
    (t.insert key value).keys = if key ∈ t.keys then t.keys else t.keys ++ [key] :=
  map_fst_bindKey key value t.entries

theorem find?_insert (t : Keyed α) (key k : String) (value : α) :
    (t.insert key value).find? k = if k = key then some value else t.find? k :=
  lookup_bindKey key k value t.entries

theorem length_keys (t : Keyed α) : t.keys.length = t.size := by simp [keys, size]

end Keyed

end SoqlForm
