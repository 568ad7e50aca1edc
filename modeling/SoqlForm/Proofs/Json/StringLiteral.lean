import SoqlForm.Json.StringLiteral

/-!
# JSON: every spelling of a string is read

A character of a string may be spelled in several ways: as it is, by a short escape, by one escaped
UTF-16 unit or by two.  Reading follows the spelling part by part, so a literal is read whatever its
spelling is, and also where a surrogate stands on its own.

* `Collector.Spells`        what may stand between the quotes of a literal;
* `readString?_of_spells`   every such literal is read, up to its closing quote;
* `spells_escapeChars`      a text that is written by `escapeChar` is one of its spellings;
* `spells_brokenLiteral`    and so is the literal that is written for the lack of a text.
-/

namespace SoqlForm.Json

/-- what may stand between the quotes of a literal; read behind `k`, it leads to `k'` -/
inductive Collector.Spells : Collector → List Char → Collector → Prop
  | done (k : Collector) : Spells k [] k
  /-- a character as it is -/
  | plain {k k' : Collector} {c : Char} {cs : List Char} (hquote : c ≠ '"') (hescape : c ≠ '\\')
      (hcontrol : isControl c = false) (rest : Spells (k.char c) cs k') : Spells k (c :: cs) k'
  | short {k k' : Collector} {e c : Char} {cs : List Char} (he : shortEscape? e = some c)
      (rest : Spells (k.char c) cs k') : Spells k ('\\' :: e :: cs) k'
  | unit {k k' : Collector} {a b c d : Char} {u : Nat} {cs : List Char}
      (hu : hexUnit? a b c d = some u) (rest : Spells (k.unit u) cs k') :
      Spells k ('\\' :: 'u' :: a :: b :: c :: d :: cs) k'

variable {k k' : Collector} {cs r : List Char}

/-! ### reading a spelling -/

theorem readStringFrom_of_spells (h : k.Spells cs k') :
    readStringFrom k (cs ++ '"' :: r) = some (k'.text?, r) := by
  induction h with
  | done k => rw [List.nil_append, readStringFrom]
  | plain hquote hescape hcontrol _ ih =>
    rw [List.cons_append, readStringFrom, if_neg (by simp [hcontrol]), ih]
    · exact hquote
    · exact fun _ _ _ _ _ hc _ => hescape hc
    · exact fun _ _ hc _ => hescape hc
  | @short k k' e c cs he _ ih =>
    have hne : e ≠ 'u' := by
      rintro rfl
      cases he
    rw [List.cons_append, List.cons_append, readStringFrom, he]
    · exact ih
    · exact fun _ _ _ _ _ hu _ => hne hu
  | unit hu _ ih =>
    simp only [List.cons_append]
    rw [readStringFrom, hu]
    exact ih

theorem readString?_of_spells (h : Collector.empty.Spells cs k) :
    readString? (cs ++ '"' :: r) = some (k.text?, r) :=
  readStringFrom_of_spells h

/-! ### the spelling that is written -/

theorem hexDigit?_hexDigit {n : Nat} (hn : n < 16) : hexDigit? (hexDigit n) = some n := by
  have table : ∀ n < 16, hexDigit? (hexDigit n) = some n := by decide
  exact table n hn

/-- a control character is spelled by the two last digits of its unit -/
theorem hexUnit?_of_isControl {c : Char} (hc : isControl c = true) :
    hexUnit? '0' '0' (hexDigit (c.toNat / 16)) (hexDigit (c.toNat % 16)) = some c.toNat := by
  have hlt : c.toNat < 0x20 := of_decide_eq_true hc
  have hzero : hexDigit? '0' = some 0 := rfl
  have hvalue : ((0 * 16 + 0) * 16 + c.toNat / 16) * 16 + c.toNat % 16 = c.toNat := by omega
  rw [hexUnit?, hzero, hexDigit?_hexDigit (by omega), hexDigit?_hexDigit (by omega)]
  exact congrArg some hvalue

theorem unit_of_isControl {c : Char} (hc : isControl c = true) : k.unit c.toNat = k.char c := by
  have hlt : c.toNat < 0x20 := of_decide_eq_true hc
  have hhigh : isHighSurrogate c.toNat = false := by
    simp only [isHighSurrogate, Bool.and_eq_false_iff, decide_eq_false_iff_not]
    omega
  have hlow : isLowSurrogate c.toNat = false := by
    simp only [isLowSurrogate, Bool.and_eq_false_iff, decide_eq_false_iff_not]
    omega
  rw [Collector.unit, hhigh, hlow, if_neg Bool.false_ne_true, if_neg Bool.false_ne_true,
    Char.ofNat_toNat]

/-- a character, as it is written, in front of a spelling -/
theorem Collector.Spells.escapeChar {c : Char} (h : (k.char c).Spells cs k') :
    k.Spells (escapeChar c ++ cs) k' := by
  unfold Json.escapeChar
  -- seven characters have a short escape
  iterate 7
    split
    · next hc =>
      subst hc
      exact .short rfl h
  split
  · next hc =>
    rw [← unit_of_isControl hc] at h
    exact .unit (hexUnit?_of_isControl hc) h
  · next hquote hescape _ _ _ _ _ hcontrol =>
    exact .plain hquote hescape (Bool.not_eq_true _ ▸ hcontrol) h

/-- the reading of a text in which no surrogate stands on its own -/
def Collector.ofChars (cs : List Char) : Collector := ⟨cs.reverse, none, false⟩

theorem text?_ofChars (cs : List Char) : (Collector.ofChars cs).text? = some (String.ofList cs) := by
  simp [Collector.text?, Collector.ofChars]

theorem char_ofChars (cs : List Char) (c : Char) :
    (Collector.ofChars cs).char c = .ofChars (cs ++ [c]) := by
  simp [Collector.char, Collector.ofChars]

theorem spells_escapeChars (done cs : List Char) :
    (Collector.ofChars done).Spells (cs.flatMap escapeChar) (.ofChars (done ++ cs)) := by
  induction cs generalizing done with
  | nil =>
    rw [List.append_nil]
    exact .done _
  | cons c cs ih =>
    have hrest := ih (done ++ [c])
    rw [← char_ofChars, List.append_assoc, List.singleton_append] at hrest
    exact hrest.escapeChar

theorem spells_brokenLiteral : Collector.empty.Spells brokenLiteral ⟨[], some 0xD800, false⟩ :=
  .unit rfl (.done _)

/-- what is written for a text, or for the lack of one, is a spelling of it -/
theorem exists_spells_stringLiteral (text : Option String) :
    ∃ cs k, stringLiteral text = '"' :: (cs ++ ['"']) ∧ Collector.empty.Spells cs k ∧
      k.text? = text := by
  cases text with
  | none => exact ⟨_, _, rfl, spells_brokenLiteral, rfl⟩
  | some s =>
    refine ⟨_, _, rfl, spells_escapeChars [] s.toList, ?_⟩
    rw [List.nil_append, text?_ofChars, String.ofList_toList]

end SoqlForm.Json
