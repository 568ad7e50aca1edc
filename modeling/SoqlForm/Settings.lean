import SoqlForm.Style

/-!
# Settings

What can be configured: the row limit of a fresh form, the thresholds of the review, the names that
count as indexed while the catalog does not know them, the literal style and the tips.
-/

namespace SoqlForm

structure Settings where
  /-- the row limit of a fresh form, if any -/
  defaultLimit : Option UInt32
  /-- the row limit above which a query counts as unbounded -/
  limitThreshold : UInt32
  /-- the number of fields above which a selection counts as wide -/
  widthThreshold : UInt64
  /-- the names that count as indexed where the catalog does not tell -/
  indexedNames : List String
  typing : Style.Typing
  escapes : Bool
  /-- the tips shown in rotation -/
  tips : List String
  deriving Repr, DecidableEq

namespace Settings

def standard : Settings where
  defaultLimit := some 10
  limitThreshold := 10000
  widthThreshold := 10
  indexedNames := ["Id", "Name", "OwnerId", "CreatedDate", "LastModifiedDate", "SystemModStamp"]
  typing := .byField
  escapes := false
  tips :=
    ["Use indexed fields in WHERE clauses for better performance",
      "Limit the number of fields returned to only what you need",
      "Use LIMIT clause to prevent hitting governor limits",
      "Avoid SOQL queries inside loops",
      "Use selective filters to reduce result set size"]

instance : Inhabited Settings := ⟨standard⟩

variable (s : Settings)

def style : Style := ⟨s.typing, s.escapes⟩

def isIndexedName (name : String) : Bool := s.indexedNames.contains name

end Settings

end SoqlForm
