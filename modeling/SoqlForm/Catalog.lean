import SoqlForm.Field
import SoqlForm.Keyed

/-!
# The catalog of the selected entity

A catalog is the table of the fields of one entity, by name, in the order in which the metadata
source gave them.  When a name is given twice, the first place and the last definition count.
Loading an entity replaces the whole catalog.
-/

namespace SoqlForm

structure Catalog where
  entity : Option String
  table : Keyed Field
  deriving Repr, DecidableEq

namespace Catalog

/-- the catalog while no entity is loaded -/
def empty : Catalog := ⟨none, .empty⟩

instance : Inhabited Catalog := ⟨empty⟩

/-- the catalog of an entity with the given fields -/
def ofFields (entity : String) (fields : List Field) : Catalog :=
  ⟨some entity, .ofList (fields.map fun f => (f.name, f))⟩

variable (c : Catalog)

def find? (name : String) : Option Field := c.table.find? name

def isIndexed (name : String) : Bool := (c.find? name).any (·.isIndexed)

/-- the names of the fields in source order -/
def names : List String := c.table.keys

/-- the fields in source order -/
def fields : List Field := c.table.values

def size : Nat := c.table.size

def isEmpty : Bool := c.size == 0

theorem find?_empty (name : String) : empty.find? name = none := rfl
theorem nodup_names : c.names.Nodup := c.table.nodup_keys

end Catalog

end SoqlForm
