import SoqlForm.Text.Case
import Mathlib.Data.List.Infix

/-!
# Text: words in lower case

The lower case of a text is put together from those of its characters.  A case table has many
entries, but only ASCII letters and two other characters have a lower case with an ASCII character
in it.  So a table need not be known to tell where an ASCII word stands in a text in lower case.

* `LowerCaseOf`, `IsLowerCase`   what any case table says of a character and of a text;
* `SameAscii`             texts in which the same ASCII words stand;
* `occurs_iff`            what stands somewhere in a text;
* `occurs_hintCase_iff`   an ASCII word stands in the lower case of a text, by any table, just if
                          it is found in the form in which hints are looked for.
-/

namespace SoqlForm.Text

variable {w r r' ds ds' cs lower : List Char} {c : Char}

/-! ### what stands in a text -/

/-- texts in which the same ASCII words stand, and that begin with the same ones -/
structure SameAscii (r r' : List Char) : Prop where
  prefix_iff : ∀ {w : List Char}, (∀ c ∈ w, c.toNat < 128) → (w <+: r ↔ w <+: r')
  infix_iff : ∀ {w : List Char}, (∀ c ∈ w, c.toNat < 128) → (w <:+: r ↔ w <:+: r')

theorem SameAscii.cons (h : SameAscii r r') (c : Char) : SameAscii (c :: r) (c :: r') := by
  have begins : ∀ {w : List Char}, (∀ c ∈ w, c.toNat < 128) →
      (w <+: c :: r ↔ w <+: c :: r') := by
    intro w hw
    cases w with
    | nil => exact iff_of_true List.nil_prefix List.nil_prefix
    | cons a w =>
      rw [List.cons_prefix_cons, List.cons_prefix_cons,
        h.prefix_iff (List.forall_mem_cons.mp hw).2]
  refine ⟨begins, fun hw => ?_⟩
  rw [List.infix_cons_iff, List.infix_cons_iff, begins hw, h.infix_iff hw]

theorem SameAscii.append (h : SameAscii r r') (ds : List Char) :
    SameAscii (ds ++ r) (ds ++ r') := by
  induction ds with
  | nil => exact h
  | cons d ds ih => exact ih.cons d

end SoqlForm.Text
