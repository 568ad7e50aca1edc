import SoqlForm.Comparison
import SoqlForm.Field
import SoqlForm.Text.Numeral
import SoqlForm.Text.Quoted
import SoqlForm.Text.Timestamp

/-!
# Literal style

How the raw text of a value is written as a literal of the query language.  A style says whether
the kind of the field is taken into account and whether quotes inside text are escaped.

* A date and a date with time are written bare, whatever the operator.
* Behind a pattern operator any other value is a quoted text between percent signs, behind a set
  operator a list of quoted parts.
* Behind the other operators a number is bare, a truth value is `true` or `false`, text and picklist
  values are quoted; a value of unknown kind is bare when its shape allows it, and quoted otherwise.
-/

namespace SoqlForm

namespace Style

/-- where the kind of a value comes from -/
inductive Typing where
  /-- from the field, and from the shape of the value where the field is not known -/
  | byField
  /-- always from the shape of the value -/
  | byShape
  deriving Repr, DecidableEq, Inhabited

namespace Typing

def all : List Typing := [byField, byShape]

def token : Typing → String
  | byField => "metadata_aware"
  | byShape => "fallback"

def ofToken? (s : String) : Option Typing := all.find? (·.token == s)

theorem ofToken?_token (t : Typing) : ofToken? t.token = some t := by cases t <;> decide

end Typing

end Style

structure Style where
  typing : Style.Typing
  escapes : Bool
  deriving Repr, DecidableEq

namespace Style

/-- the style of a fresh form: kinds from the fields, nothing escaped -/
def standard : Style := ⟨.byField, false⟩

instance : Inhabited Style := ⟨standard⟩

/-- the kind that the style sees for a field that may be unknown -/
def kind? (st : Style) (field? : Option Field) : Option Field.Kind :=
  match st.typing with
  | .byField => field?.map (·.kind)
  | .byShape => none

/-- a pattern: the text anywhere in the field -/
def pattern (st : Style) (raw : List Char) : List Char :=
  Text.quoted st.escapes ('%' :: (raw ++ ['%']))

/-- the values of a set: the parts between commas, without the blanks around them -/
def setParts (raw : List Char) : List (List Char) := (Text.pieces (· == ',') raw).map Text.trim

/-- a set: its values quoted, between parentheses -/
def set (st : Style) (raw : List Char) : List Char :=
  '(' :: ([','].intercalate ((setParts raw).map (Text.quoted st.escapes)) ++ [')'])

/-- a truth value: any text but `true`, in any letter case, is false -/
def truth (raw : List Char) : List Char :=
  if Text.lower raw = "true".toList then "true".toList else "false".toList

/-- one value of a kind that may be unknown -/
def single (st : Style) (kind? : Option Field.Kind) (raw : List Char) : List Char :=
  match kind? with
  | some .number => raw
  | some .boolean => truth raw
  | some _ => Text.quoted st.escapes raw
  | none => if Text.isBare raw then raw else Text.quoted st.escapes raw

/-- the literal for a value of a kind that may be unknown -/
def literalOfKind (st : Style) (kind? : Option Field.Kind) (comparison : Comparison)
    (raw : List Char) : List Char :=
  match kind? with
  | some .dateTime => Text.normalizeTimestamp raw
  | some .date => raw
  | kind? =>
    match comparison.operand with
    | .pattern => st.pattern raw
    | .set => st.set raw
    | .single => st.single kind? raw

/-- the literal for a value typed in for a field that may be unknown -/
def literal (st : Style) (field? : Option Field) (comparison : Comparison) (raw : String) :
    String :=
  String.ofList (st.literalOfKind (st.kind? field?) comparison raw.toList)

end Style

/-- the literal form of a date and time typed in -/
def normalizeTimestamp (raw : String) : String := String.ofList (Text.normalizeTimestamp raw.toList)

end SoqlForm
