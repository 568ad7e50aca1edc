import SoqlForm.Failure
import SoqlForm.Text.Blank
import SoqlForm.Text.Case

/-!
# Comparisons, connectives and directions

The operators of a query: what compares a field with a value, what joins two conditions, and the
two directions of sorting.  Each has one token, the word or sign that stands in the query.

* `Comparison.parse`   reads a comparison whatever its letter case and the blanks around and
                       between its words;
* `Connective.parse`   reads a connective whatever its letter case and the blanks around it;
* both fail with the text as it was given.
-/

namespace SoqlForm

/-! ### comparisons -/

inductive Comparison where
  | equal
  | notEqual
  | less
  | atMost
  | greater
  | atLeast
  | like
  | notLike
  | among
  | notAmong
  deriving Repr, DecidableEq, Inhabited

namespace Comparison

def all : List Comparison :=
  [equal, notEqual, less, atMost, greater, atLeast, like, notLike, among, notAmong]

/-- the operator as it stands in a query -/
def token : Comparison → String
  | equal => "="
  | notEqual => "!="
  | less => "<"
  | atMost => "<="
  | greater => ">"
  | atLeast => ">="
  | like => "LIKE"
  | notLike => "NOT LIKE"
  | among => "IN"
  | notAmong => "NOT IN"

/-- the name shown in a list of operators -/
def label : Comparison → String
  | equal => "Equals (=)"
  | notEqual => "Not Equals (!=)"
  | less => "Less Than (<)"
  | atMost => "Less Than or Equal (<=)"
  | greater => "Greater Than (>)"
  | atLeast => "Greater Than or Equal (>=)"
  | like => "Like"
  | notLike => "Not Like"
  | among => "In"
  | notAmong => "Not In"

/-- what stands behind an operator -/
inductive Operand where
  /-- one value -/
  | single
  /-- a text to be found anywhere in the field -/
  | pattern
  /-- a list of values -/
  | set
  deriving Repr, DecidableEq

def operand : Comparison → Operand
  | like | notLike => .pattern
  | among | notAmong => .set
  | _ => .single

def isPattern (c : Comparison) : Bool := c.operand == .pattern

def isSet (c : Comparison) : Bool := c.operand == .set

/-- the comparisons that exclude values -/
def isNegative : Comparison → Bool
  | notEqual | notLike | notAmong => true
  | _ => false

def ofToken? (s : String) : Option Comparison := all.find? (·.token == s)

/-- the words of a text in upper case, with one space between them -/
def normalize (s : String) : String :=
  String.ofList (Text.upper ([' '].intercalate (Text.words s.toList)))

def parse (s : String) : Except Failure Comparison :=
  match ofToken? (normalize s) with
  | some c => .ok c
  | none => .error (.unknownOperator s)

theorem ofToken?_token (c : Comparison) : ofToken? c.token = some c := by cases c <;> decide

end Comparison

/-! ### connectives -/

inductive Connective where
  | and
  | or
  deriving Repr, DecidableEq, Inhabited

namespace Connective

def all : List Connective := [and, or]

def token : Connective → String
  | and => "AND"
  | or => "OR"

def ofToken? (s : String) : Option Connective := all.find? (·.token == s)

def parse (s : String) : Except Failure Connective :=
  match ofToken? (String.ofList (Text.upper (Text.trim s.toList))) with
  | some c => .ok c
  | none => .error (.unknownOperator s)

theorem ofToken?_token (c : Connective) : ofToken? c.token = some c := by cases c <;> decide

end Connective

/-! ### directions -/

inductive Direction where
  | ascending
  | descending
  deriving Repr, DecidableEq, Inhabited

namespace Direction

def all : List Direction := [ascending, descending]

def token : Direction → String
  | ascending => "ASC"
  | descending => "DESC"

def ofToken? (s : String) : Option Direction := all.find? (·.token == s)

end Direction

end SoqlForm
