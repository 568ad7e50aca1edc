import SoqlForm.Proofs.Catalog
import SoqlForm.Proofs.Keyed.Hashed

/-!
# A catalog in two parts

The fields of an entity may be kept in two parts: a hash table, in which a field is looked up by its
name, and a list of the names, which keeps their order.  Both are filled field by field and emptied
together.  Whatever was loaded before, they show the catalog that the last call makes.

* `Catalog.Index`, `Catalog.Call`   the two parts, and the calls that fill and empty them;
* `Index.Shows`       an index shows what a catalog has;
* `shows_add`, `shows_load`   a field is put into both alike, and so are all fields of an entity;
* `ofFields_once`, `find?_ofFields_eq_getLast?`, `map_find?_names`   names, look-ups and fields of a
                      catalog;
* `contents_after`    what an index shows behind any calls.
-/

namespace SoqlForm.Catalog

/-! ### the names and the fields of a catalog -/

theorem ofFields_concat (entity : String) (fields : List Field) (f : Field) :
    ofFields entity (fields ++ [f])
      = ⟨some entity, (ofFields entity fields).table.insert f.name f⟩ := by
  rw [ofFields, List.map_append]
  exact congrArg _ (Keyed.ofList_concat _ _)

theorem ofFields_once (entity : String) (fields : List Field) :
    OnceInOrder (ofFields entity fields).names (fields.map (·.name)) := by
  have once := Keyed.keys_ofList (fields.map fun f => (f.name, f))
  rwa [List.map_map] at once

/-- the last field of a name counts -/
theorem find?_ofFields_eq_getLast? (entity : String) (fields : List Field) (name : String) :
    (ofFields entity fields).find? name = (fields.filter (·.name == name)).getLast? := by
  rw [find?_ofFields, ← List.head?_filter, List.filter_reverse, List.head?_reverse]

theorem map_find?_names (c : Catalog) : c.names.map c.find? = c.fields.map some :=
  c.table.map_find?_keys

theorem map_name_fields (entity : String) (fields : List Field) :
    (ofFields entity fields).fields.map (·.name) = (ofFields entity fields).names := by
  rw [Catalog.fields, Keyed.values, names, Keyed.keys, List.map_map]
  apply List.map_congr_left
  intro e he
  obtain ⟨f, -, rfl⟩ := List.mem_map.mp (Keyed.mem_of_mem_ofList he)
  rfl

theorem isEmpty_iff (c : Catalog) : c.isEmpty = true ↔ c.names = [] := by
  rw [isEmpty, beq_iff_eq, size, ← Keyed.length_keys, List.length_eq_zero_iff]
  rfl

/-! ### the two parts -/

structure Index where
  entity : Option String
  byName : Std.HashMap String Field
  order : List String

inductive Call where
  | load (entity : String) (fields : List Field)
  | clear

namespace Index

section
variable (x : Index)

def lookup (name : String) : Option Field := x.byName[name]?

def fields : List Field := x.order.filterMap x.lookup

def size : Nat := x.byName.size

def isEmpty : Bool := x.byName.isEmpty

def clear (_ : Index) : Index := ⟨none, ∅, []⟩

/-- puts a field in; a name that the table does not have yet goes to the end of the list -/
def add (f : Field) : Index :=
  { x with
    order := if x.byName.contains f.name then x.order else x.order ++ [f.name]
    byName := x.byName.insert f.name f }

/-- empties the index and puts the fields of an entity in, one after the other -/
def load (entity : String) (fields : List Field) : Index :=
  fields.foldl add { x.clear with entity := some entity }

def perform : Call → Index
  | .load entity fields => x.load entity fields
  | .clear => x.clear

def after (calls : List Call) : Index := calls.foldl perform x

end

/-- whether an index answers everything as a catalog does -/
structure Shows (x : Index) (c : Catalog) : Prop where
  entity : x.entity = c.entity
  names : x.order = c.names
  find? : ∀ name, x.lookup name = c.find? name
  fields : x.fields = c.fields
  size : x.size = c.size
  isEmpty : x.isEmpty = c.isEmpty

variable {x : Index} {c : Catalog}

theorem Shows.hashed (h : x.Shows c) : c.table.Hashed x.order x.byName :=
  ⟨h.names, h.find?, h.size⟩

/-- names, look-ups and the size determine the rest -/
theorem shows_of_hashed (entity : x.entity = c.entity) (h : c.table.Hashed x.order x.byName) :
    x.Shows c where
  entity := entity
  names := h.keys
  find? := h.find?
  size := h.size
  fields := by
    have same : x.lookup = c.find? := funext h.find?
    have found := congrArg (List.filterMap id) c.map_find?_names
    rw [List.filterMap_map, List.filterMap_map] at found
    have names : x.order = c.names := h.keys
    rw [fields, names, same]
    exact found.trans List.filterMap_some
  isEmpty := by
    have size : x.byName.size = c.size := h.size
    rw [isEmpty, Std.HashMap.isEmpty_eq_size_eq_zero, Catalog.isEmpty, size]

theorem shows_empty (entity : Option String) : Shows ⟨entity, ∅, []⟩ ⟨entity, .empty⟩ :=
  shows_of_hashed rfl Keyed.hashed_empty

theorem shows_add (h : x.Shows c) (f : Field) :
    (x.add f).Shows { c with table := c.table.insert f.name f } :=
  shows_of_hashed h.entity (h.hashed.insert f.name f)

/-- whatever was in the index, it shows the catalog of the entity that is loaded -/
theorem shows_load (x : Index) (entity : String) (fields : List Field) :
    (x.load entity fields).Shows (ofFields entity fields) := by
  induction fields using List.reverseRecOn with
  | nil => exact shows_empty (some entity)
  | append_singleton fields f ih =>
    rw [load, List.foldl_append, ofFields_concat]
    exact shows_add ih f

theorem after_concat (x : Index) (calls : List Call) (last : Call) :
    x.after (calls ++ [last]) = (x.after calls).perform last :=
  List.foldl_append

end Index

/-- **The contents depend on the last call only.**  An emptied index shows the empty catalog.  One
that is loaded shows the catalog of the entity: each name once, in the order in which the fields
first have it, with the last field of the name, and one field, of this name, for each name. -/
theorem contents_after (x : Index) (calls : List Call) :
    (x.after (calls ++ [.clear])).Shows .empty ∧
      ∀ entity fields,
        let c := ofFields entity fields
        (x.after (calls ++ [.load entity fields])).Shows c ∧
          c.entity = some entity ∧
          OnceInOrder c.names (fields.map (·.name)) ∧
          (∀ name, c.find? name = (fields.filter (·.name == name)).getLast?) ∧
          c.names.map c.find? = c.fields.map some ∧
          c.fields.map (·.name) = c.names ∧
          c.size = (fields.map (·.name)).toFinset.card ∧
          (c.isEmpty = true ↔ fields = []) := by
  constructor
  · rw [Index.after_concat]
    exact Index.shows_empty none
  · intro entity fields c
    have once : OnceInOrder c.names (fields.map (·.name)) := ofFields_once entity fields
    refine ⟨?_, rfl, once, find?_ofFields_eq_getLast? entity fields, c.map_find?_names,
      map_name_fields entity fields, ?_, ?_⟩
    · rw [Index.after_concat]
      exact Index.shows_load _ entity fields
    · rw [← once.length]
      exact c.table.length_keys.symm
    · rw [isEmpty_iff, once.eq_nil_iff, List.map_eq_nil_iff]

/-- a name that is given twice keeps its first place and its last definition -/
example : (ofFields "Account" [.plain "Name" .text, .plain "Id" .text, .plain "Name" .number]).fields
    = [.plain "Name" .number, .plain "Id" .text] := by decide

end SoqlForm.Catalog
