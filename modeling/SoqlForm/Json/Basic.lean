import SoqlForm.Json.Number

/-!
# JSON: values

A value is a scalar, an array or an object.  The members of an object stand in the order of the
text, and a name may be repeated.  A string or a name is without text where its literal holds a
surrogate on its own.

`integer?`, `text?`, `bool?`, `list?` and `optional?` look at a value as one of a given shape.
-/

namespace SoqlForm

namespace Json

/-- a value without parts -/
inductive Scalar where
  | null
  | bool (b : Bool)
  | number (n : Number)
  | string (text : Option String)
  deriving Repr, DecidableEq

end Json

inductive Json where
  | scalar (s : Json.Scalar)
  | array (items : List Json)
  | object (members : List (Option String × Json))
  deriving Repr

namespace Json

/-- a member of an object: its name and its value -/
abbrev Member := Option String × Json

@[match_pattern] def null : Json := .scalar .null
@[match_pattern] def bool (b : Bool) : Json := .scalar (.bool b)
@[match_pattern] def number (n : Number) : Json := .scalar (.number n)
@[match_pattern] def string (s : String) : Json := .scalar (.string (some s))

def ofNat (n : Nat) : Json := .number (.ofNat n)
def ofInt (i : Int) : Json := .number (.ofInt i)

/-- an object whose names all have a text -/
def record (members : List (String × Json)) : Json :=
  .object (members.map fun m => (some m.1, m.2))

def strings (ss : List String) : Json := .array (ss.map .string)

/-- the value, or null where there is none -/
def ofOption {α : Type} (encode : α → Json) : Option α → Json
  | none => null
  | some a => encode a

/-! ### values of a given shape -/

def text? : Json → Option String
  | .scalar (.string t) => t
  | _ => none

def bool? : Json → Option Bool
  | .scalar (.bool b) => some b
  | _ => none

def integer? : Json → Option Int
  | .scalar (.number n) => n.integer?
  | _ => none

/-- an integer literal from 0 up to, not including, `bound` -/
def natBelow? (bound : Nat) (v : Json) : Option Nat := do
  let i ← v.integer?
  if 0 ≤ i ∧ i < bound then some i.toNat else none

/-- an array whose items all decode -/
def list? {α : Type} (decode : Json → Option α) : Json → Option (List α)
  | .array items => items.mapM decode
  | _ => none

/-- null, or a value that decodes -/
def optional? {α : Type} (decode : Json → Option α) : Json → Option (Option α)
  | .scalar .null => some none
  | v => (decode v).map some

/-- a token of an enumeration: a string, or an object whose one member has the token as its name
and null as its value -/
def token? : Json → Option String
  | .scalar (.string t) => t
  | .object [(name, .scalar .null)] => name
  | _ => none

@[simp] theorem text?_string (s : String) : (string s).text? = some s := rfl
@[simp] theorem bool?_bool (b : Bool) : (bool b).bool? = some b := rfl
@[simp] theorem integer?_ofInt (i : Int) : (ofInt i).integer? = some i := Number.integer?_ofInt i

end Json

end SoqlForm
