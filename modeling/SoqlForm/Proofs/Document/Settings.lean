import SoqlForm.Document.Settings
import SoqlForm.Proofs.Json.Record
import SoqlForm.Proofs.Json.Text

/-!
# A document of settings changes what it names, and nothing else

A document may give some of the entries, in any order, and members of other names between them.  The
entries given are taken from it and the others are standard.  What is written of settings is read as
these settings.

* `Settings.given`                the settings of a document that gives only some of the entries;
* `Settings.ofJson?_of_entries`   the settings of an object with some of the entries;
* `read?_of_entries`              the same for every text of the object.
-/

namespace SoqlForm.Settings

variable (s : Settings) {ms : List (String × Json)}

/-- the settings of a document with those entries of `s` that have one of the names -/
def given (names : List String) : Settings where
  defaultLimit := if "default_limit" ∈ names then s.defaultLimit else standard.defaultLimit
  limitThreshold :=
    if "limit_warning_threshold" ∈ names then s.limitThreshold else standard.limitThreshold
  widthThreshold :=
    if "wide_selection_threshold" ∈ names then s.widthThreshold else standard.widthThreshold
  indexedNames := if "indexed_fields" ∈ names then s.indexedNames else standard.indexedNames
  typing := if "format_mode" ∈ names then s.typing else standard.typing
  escapes := if "escape_quotes" ∈ names then s.escapes else standard.escapes
  tips := if "best_practices" ∈ names then s.tips else standard.tips

theorem given_entryNames : s.given entryNames = s := by
  simp [given, entryNames]

/-- only the names of entries count -/
theorem given_filter (names : List String) :
    s.given (names.filter (entryNames.contains ·)) = s.given names := by
  simp [given, entryNames]

/-! ### entries one by one -/

theorem nodup_entryNames : entryNames.Nodup := by decide

theorem nodup_members : (s.members.map Prod.fst).Nodup := nodup_entryNames

theorem word32?_ofNat (n : UInt32) : word32? (.ofNat n.toNat) = some n := by
  rw [word32?, Json.natBelow?_ofNat n.toNat_lt, Option.map_some, UInt32.ofNat_toNat]

theorem word64?_ofNat (n : UInt64) : word64? (.ofNat n.toNat) = some n := by
  rw [word64?, Json.natBelow?_ofNat n.toNat_lt, Option.map_some, UInt64.ofNat_toNat]

/-- a row limit is decoded, and so is the lack of one -/
theorem limit?_ofOption (limit : Option UInt32) :
    (Json.ofOption (fun n : UInt32 => .ofNat n.toNat) limit).optional? word32? = some limit :=
  Json.optional?_ofOption word32?_ofNat nofun limit

variable {s}

/-- some of the entries, in any order: each is decoded if it is given, and standard otherwise -/
theorem entries_of_subperm {es : Json.Entries} (h : es.Subperm s.members) :
    let t := s.given (es.map Prod.fst)
    es.default? "default_limit" (Json.optional? word32?) standard.defaultLimit
        = some t.defaultLimit ∧
      es.default? "limit_warning_threshold" word32? standard.limitThreshold
        = some t.limitThreshold ∧
      es.default? "wide_selection_threshold" word64? standard.widthThreshold
        = some t.widthThreshold ∧
      es.default? "indexed_fields" (Json.list? Json.text?) standard.indexedNames
        = some t.indexedNames ∧
      es.default? "format_mode" Style.Typing.ofJson? standard.typing = some t.typing ∧
      es.default? "escape_quotes" Json.bool? standard.escapes = some t.escapes ∧
      es.default? "best_practices" (Json.list? Json.text?) standard.tips = some t.tips := by
  have entry {α : Type} {name : String} {v : Json} {decode : Json → Option α} {a : α}
      (hv : (name, v) ∈ s.members) (hdecode : decode v = some a) (default : α) :=
    Json.Entries.default?_of_subset h.subset s.nodup_members hv hdecode default
  refine ⟨?limit, ?threshold, ?width, ?indexed, ?typing, ?escapes, ?tips⟩
  case limit => exact entry (by simp [members]) (limit?_ofOption s.defaultLimit) _
  case threshold => exact entry (by simp [members]) (word32?_ofNat s.limitThreshold) _
  case width => exact entry (by simp [members]) (word64?_ofNat s.widthThreshold) _
  case indexed => exact entry (by simp [members]) (Json.list?_strings s.indexedNames) _
  case typing => exact entry (by simp [members]) s.typing.ofJson?_toJson _
  case escapes => exact entry (by simp [members]) (Json.bool?_bool s.escapes) _
  case tips => exact entry (by simp [members]) (Json.list?_strings s.tips) _

/-! ### documents -/

/-- an object with some of the entries, in any order, and with members of other names -/
theorem ofJson?_of_entries (h : (ms.filter (entryNames.contains ·.1)).Subperm s.members) :
    ofJson? (.record ms) = some (s.given (ms.map Prod.fst)) := by
  have hread := Json.Entries.read?_record (Json.Entries.nodup_of_subperm h s.nodup_members)
  obtain ⟨hlimit, hthreshold, hwidth, hindexed, htyping, hescapes, htips⟩ := entries_of_subperm h
  have hnames : (ms.filter (entryNames.contains ·.1)).map Prod.fst
      = (ms.map Prod.fst).filter (entryNames.contains ·) := by
    rw [List.filter_map]
    rfl
  rw [hnames, given_filter] at hlimit hthreshold hwidth hindexed htyping hescapes htips
  simp only [ofJson?, hread, hlimit, hthreshold, hwidth, hindexed, htyping, hescapes, htips,
    Option.bind_eq_bind, Option.bind_some]
  rfl

/-- a document without limit gives none, and a document that does not name it gives the standard -/
theorem defaultLimit_given (h : (ms.filter (entryNames.contains ·.1)).Subperm s.members) :
    (s.given (ms.map Prod.fst)).defaultLimit = none ↔ ("default_limit", .null) ∈ ms := by
  have hentry : ∀ v, ("default_limit", v) ∈ ms →
      v = .ofOption (fun n : UInt32 => .ofNat n.toNat) s.defaultLimit := by
    intro v hv
    have hknown : ("default_limit", v) ∈ ms.filter (entryNames.contains ·.1) :=
      List.mem_filter.mpr ⟨hv, rfl⟩
    simpa [members] using h.subset hknown
  show (if _ then _ else _) = none ↔ _
  split
  · next hname =>
    obtain ⟨⟨name, v⟩, hv, rfl⟩ := List.mem_map.mp hname
    rw [hentry v hv] at hv
    constructor
    · intro hnone
      rw [hnone] at hv
      exact hv
    · intro hnull
      have hsame := hentry _ hnull
      cases hlimit : s.defaultLimit with
      | none => rfl
      | some n => rw [hlimit] at hsame; cases hsame
  · next hname =>
    exact iff_of_false nofun fun hnull => hname (List.mem_map_of_mem hnull)

/-- **A document gives the entries that it names.**  Of settings `s`, some entries are written in
any order, with members of other names between them; every text of the object is read as `s` in
these entries and standard in the others.  There is no limit only where the document says so, and
what is written of settings is read as these settings. -/
theorem read?_of_entries (s : Settings) (ms : List (String × Json)) (document : String)
    (hentries : (ms.filter (entryNames.contains ·.1)).Subperm s.members)
    (hdocument : (Json.record ms).IsTextOf document) :
    read? document = some (s.given (ms.map Prod.fst)) ∧
      ((s.given (ms.map Prod.fst)).defaultLimit = none ↔ ("default_limit", .null) ∈ ms) ∧
      read? s.toJson.text = some s := by
  have hall : s.members.filter (entryNames.contains ·.1) = s.members := by
    rw [List.filter_eq_self]
    simp [members, entryNames]
  refine ⟨?_, defaultLimit_given hentries, ?_⟩
  · rw [read?, Json.read?_of_isTextOf hdocument, Option.bind_some, ofJson?_of_entries hentries]
  · have hself : ofJson? (.record s.members) = some (s.given (s.members.map Prod.fst)) :=
      ofJson?_of_entries (hall ▸ List.Subperm.refl _)
    rw [read?, Json.read?_text, Option.bind_some, toJson, hself, map_fst_members, given_entryNames]

/-- two entries, not in their order, between members of another name; one of these has a number out
of every range and a string without a text -/
theorem read?_of_entries_out_of_order :
    let s : Settings :=
      { standard with defaultLimit := none, typing := .byShape, escapes := true, tips := [] }
    let odd : Json := .array [.number ⟨"1e400", rfl⟩, .scalar (.string none)]
    let ms := [("note", odd), ("escape_quotes", .bool true), ("note", .null),
      ("default_limit", .null)]
    (ms.filter (entryNames.contains ·.1)).Subperm s.members ∧
      (Json.record ms).IsTextOf (Json.record ms).text ∧
      read? (Json.record ms).text = some { standard with defaultLimit := none, escapes := true } ∧
      read? s.toJson.text = some s := by
  intro s odd ms
  have hentries : (ms.filter (entryNames.contains ·.1)).Subperm s.members :=
    ⟨[("default_limit", .null), ("escape_quotes", .bool true)], .swap ..,
      .cons_cons _ <| .cons _ <| .cons _ <| .cons _ <| .cons _ <| .cons_cons _ <| .cons _ .slnil⟩
  have hdocument := (Json.record ms).isTextOf_text
  obtain ⟨hread, _, hself⟩ := read?_of_entries s ms _ hentries hdocument
  exact ⟨hentries, hdocument, hread, hself⟩

end SoqlForm.Settings
