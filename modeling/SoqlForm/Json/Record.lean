import SoqlForm.Json.Basic

/-!
# JSON: records

A record type has named entries in a fixed order.  Its value is an object, where entries may stand
in any order, an entry given twice is an error and members of other names are passed over; or an
array with the entries in their order, where trailing ones may be left out.

`Entries.read?` turns both forms into the list of the entries given; `required?` and `default?`
decode one entry of it.
-/

namespace SoqlForm.Json

/-- the entries that a value gives, by name -/
abbrev Entries := List (String × Json)

/-- the members of an object that have one of the names, in the order of the text; none where a
name has no text -/
def knownMembers? (names : List String) : List Member → Option Entries
  | [] => some []
  | (none, _) :: _ => none
  | (some name, v) :: ms =>
    (knownMembers? names ms).map fun es => if names.contains name then (name, v) :: es else es

namespace Entries

/-- no entry is given twice -/
def isDistinct (es : Entries) : Bool := decide (es.map Prod.fst).Nodup

/-- the entries of a record with the names `names` -/
def read? (names : List String) : Json → Option Entries
  | .object members => do
    let es ← knownMembers? names members
    if isDistinct es then some es else none
  | .array items => if items.length ≤ names.length then some (names.zip items) else none
  | .scalar _ => none

variable {α : Type}

/-- an entry that must be given -/
def required? (es : Entries) (name : String) (decode : Json → Option α) : Option α :=
  (List.lookup name es).bind decode

/-- an entry that takes a default when it is not given -/
def default? (es : Entries) (name : String) (decode : Json → Option α) (default : α) : Option α :=
  match List.lookup name es with
  | some v => decode v
  | none => some default

end Entries

end SoqlForm.Json
