import SoqlForm.Document.Token
import SoqlForm.Json.Record
import SoqlForm.Settings

/-!
# Documents of settings

Every entry of the settings may be left out and takes its standard value then.  A row limit of null
is no limit, which is not the same as a row limit left out.
-/

namespace SoqlForm.Settings

/-- the entries of the settings, in order -/
def entryNames : List String :=
  ["default_limit", "limit_warning_threshold", "wide_selection_threshold", "indexed_fields",
    "format_mode", "escape_quotes", "best_practices"]

/-- the entries with their values, in order -/
def members (s : Settings) : List (String × Json) :=
  [("default_limit", .ofOption (fun n : UInt32 => .ofNat n.toNat) s.defaultLimit),
    ("limit_warning_threshold", .ofNat s.limitThreshold.toNat),
    ("wide_selection_threshold", .ofNat s.widthThreshold.toNat),
    ("indexed_fields", .strings s.indexedNames),
    ("format_mode", s.typing.toJson),
    ("escape_quotes", .bool s.escapes),
    ("best_practices", .strings s.tips)]

def toJson (s : Settings) : Json := .record s.members

theorem map_fst_members (s : Settings) : s.members.map Prod.fst = entryNames := rfl

/-- an unsigned integer of 32 bits -/
def word32? (v : Json) : Option UInt32 := (v.natBelow? UInt32.size).map UInt32.ofNat

/-- an unsigned integer of 64 bits -/
def word64? (v : Json) : Option UInt64 := (v.natBelow? UInt64.size).map UInt64.ofNat

def ofJson? (v : Json) : Option Settings := do
  let es ← Json.Entries.read? entryNames v
  let defaultLimit ←
    es.default? "default_limit" (Json.optional? word32?) standard.defaultLimit
  let limitThreshold ← es.default? "limit_warning_threshold" word32? standard.limitThreshold
  let widthThreshold ← es.default? "wide_selection_threshold" word64? standard.widthThreshold
  let indexedNames ← es.default? "indexed_fields" (Json.list? Json.text?) standard.indexedNames
  let typing ← es.default? "format_mode" Style.Typing.ofJson? standard.typing
  let escapes ← es.default? "escape_quotes" Json.bool? standard.escapes
  let tips ← es.default? "best_practices" (Json.list? Json.text?) standard.tips
  return { defaultLimit, limitThreshold, widthThreshold, indexedNames, typing, escapes, tips }

/-- the settings of a document -/
def read? (document : String) : Option Settings := (Json.read? document).bind ofJson?

end SoqlForm.Settings
