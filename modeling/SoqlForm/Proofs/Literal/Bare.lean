import SoqlForm.Proofs.Literal
import SoqlForm.Proofs.Text.Numeral

/-!
# Values written as they stand

Where the kind of a field is not known, or not taken into account, the shape of a value decides
whether it is written as it stands or between quotes.

* `Text.StandsBare`               one of three words, or a numeral below the rounding limit;
* `Text.isBare_iff`               the test of the shape, as the grammar and the exact value say it;
* `Text.not_mem_reserved_of_isBare`   a bare value has no sign of the query language;
* `Style.literal_by_shape`        the literal of a value of unknown kind.
-/

namespace SoqlForm

namespace Text

/-- the values that are written as they stand: three words, exactly, and with blanks around them the
numerals whose magnitude a binary64 number can have after rounding -/
def StandsBare (raw : String) : Prop :=
  raw ∈ ["true", "false", "null"] ∨
    ∃ n : Numeral, n.Spells (trim raw.toList) ∧ n.magnitude < 2 ^ (1024 : ℕ) - 2 ^ (970 : ℕ)

theorem any_toList_beq (words : List String) (raw : String) :
    words.any (·.toList == raw.toList) = true ↔ raw ∈ words := by
  rw [List.any_eq_true]
  constructor
  · rintro ⟨word, hword, heq⟩
    rw [← String.toList_inj.mp (beq_iff_eq.mp heq)]
    exact hword
  · intro hraw
    exact ⟨raw, hraw, beq_self_eq_true raw.toList⟩

theorem isBare_iff (raw : String) : isBare raw.toList = true ↔ StandsBare raw := by
  rw [isBare, Bool.or_eq_true, any_toList_beq]
  refine or_congr Iff.rfl ?_
  cases hread : Numeral.read? (trim raw.toList) with
  | none =>
    refine iff_of_false Bool.false_ne_true ?_
    rintro ⟨n, hspells, _⟩
    rw [Numeral.read?_eq_some_iff.mpr hspells] at hread
    cases hread
  | some n =>
    have hspells := Numeral.read?_eq_some_iff.mp hread
    have hfinite := Numeral.isFinite_iff hspells.areDigits_whole hspells.areDigits_fraction
    constructor
    · intro h
      exact ⟨n, hspells, hfinite.mp h⟩
    · rintro ⟨m, hm, hlt⟩
      rw [hm.unique hspells] at hlt
      exact hfinite.mpr hlt

/-! ### the signs of the query language -/

/-- the characters that quote, separate, enclose and compare -/
def reserved : List Char := ['\'', '"', ',', '(', ')', '=', '<', '>', '!']

theorem not_mem_reserved_of_isBare {cs : List Char} (h : isBare cs = true) :
    ∀ c ∈ cs, c ∉ reserved := by
  rw [isBare, Bool.or_eq_true] at h
  rcases h with h | h
  · obtain ⟨word, hword, hcs⟩ := List.any_eq_true.mp h
    have table : bareWords.all (fun w => reserved.all (!w.toList.contains ·)) = true := by decide
    rw [← beq_iff_eq.mp hcs]
    intro c hc
    exact not_mem_of_all_not (List.all_eq_true.mp table word hword) (List.contains_iff_mem.mpr hc)
  · cases hread : Numeral.read? (trim cs) with
    | none => rw [hread] at h; cases h
    | some n =>
      obtain ⟨before, behind, hcs, hbefore, hbehind⟩ := trim_parts cs
      have hblank : ∀ c, isBlank c = true → c ∉ reserved :=
        fun c => not_mem_of_all_not (by decide)
      have hnumeral : ∀ c, isNumeralChar c = true → c ∉ reserved :=
        fun c => not_mem_of_all_not (by decide)
      intro c hc
      rw [hcs, List.mem_append, List.mem_append] at hc
      rcases hc with hc | hc | hc
      · exact hblank c (hbefore c hc)
      · exact hnumeral c (Numeral.isNumeralChar_of_read? hread c hc)
      · exact hblank c (hbehind c hc)

end Text

namespace Style

open Text

variable {style : Style} {field? : Option Field} {comparison : Comparison}

theorem kind?_eq_none (h : field? = none ∨ style.typing = .byShape) :
    style.kind? field? = none := by
  rcases h with rfl | h
  · cases ht : style.typing <;> simp only [kind?, ht, Option.map_none]
  · rw [kind?, h]

theorem operand_eq_single (hpattern : comparison.isPattern = false)
    (hset : comparison.isSet = false) : comparison.operand = .single := by
  rw [Comparison.isPattern, beq_eq_false_iff_ne] at hpattern
  rw [Comparison.isSet, beq_eq_false_iff_ne] at hset
  cases h : comparison.operand with
  | single => rfl
  | pattern => exact absurd h hpattern
  | set => exact absurd h hset

/-- **A value of unknown kind is written as it stands just if it is one of three words or a numeral
below the rounding limit, and between quotes otherwise; as it stands it has no sign of the query
language.** -/
theorem literal_by_shape (hkind : field? = none ∨ style.typing = .byShape)
    (hpattern : comparison.isPattern = false) (hset : comparison.isSet = false) (raw : String) :
    (style.literal field? comparison raw = raw ↔ StandsBare raw) ∧
    (¬ StandsBare raw → style.literal field? comparison raw =
      "'" ++ String.ofList (literalBody style.escapes raw.toList) ++ "'") ∧
    (style.literal field? comparison raw = raw →
      ∀ c ∈ (style.literal field? comparison raw).toList, c ∉ reserved) := by
  have hliteral : style.literal field? comparison raw = String.ofList
      (if isBare raw.toList then raw.toList else quoted style.escapes raw.toList) := by
    rw [literal, kind?_eq_none hkind, literalOfKind_eq (by decide),
      operand_eq_single hpattern hset]
    rfl
  by_cases hbare : isBare raw.toList = true
  · have hraw : style.literal field? comparison raw = raw := by
      rw [hliteral, if_pos hbare, String.ofList_toList]
    have hstands := (isBare_iff raw).mp hbare
    refine ⟨iff_of_true hraw hstands, fun hnot => absurd hstands hnot, fun _ => ?_⟩
    rw [hraw]
    exact not_mem_reserved_of_isBare hbare
  · have hquoted : style.literal field? comparison raw =
        String.ofList (quoted style.escapes raw.toList) := by
      rw [hliteral, if_neg hbare]
    have hne : style.literal field? comparison raw ≠ raw := by
      intro heq
      have hlen := length_lt_length_quoted style.escapes raw.toList
      rw [← String.toList_ofList (l := quoted style.escapes raw.toList), ← hquoted, heq] at hlen
      exact lt_irrefl _ hlen
    refine ⟨iff_of_false hne (mt (isBare_iff raw).mpr hbare), fun _ => ?_,
      fun heq => absurd heq hne⟩
    rw [hquoted, ← String.toList_inj]
    simp [quoted]

/-- at the greatest number whose decimal form rounds to a finite one: the last digit decides, also
for a known field when kinds are not taken into account -/
theorem literal_by_shape_at_the_limit :
    standard.literal none .less "\u3000+1.7976931348623158e308 " =
      "\u3000+1.7976931348623158e308 " ∧
    (Style.mk .byShape true).literal (some (.plain "Name" .text)) .equal
      "1.7976931348623159E+308" = "'1.7976931348623159E+308'" := by
  have hbelow : StandsBare "\u3000+1.7976931348623158e308 " :=
    (isBare_iff _).mp (by decide +kernel)
  have habove : ¬ StandsBare "1.7976931348623159E+308" :=
    mt (isBare_iff _).mpr (by decide +kernel)
  exact ⟨(literal_by_shape (.inl rfl) rfl rfl _).1.mpr hbelow,
    (literal_by_shape (.inr rfl) rfl rfl _).2.1 habove⟩

end Style

end SoqlForm
