/-!
# Tips in rotation

A list of tips of which one is shown; the next one follows, and behind the last comes the first.
A new list starts at its first tip.
-/

namespace SoqlForm

structure Rotation where
  tips : List String
  /-- the number of the tip shown -/
  position : Nat
  deriving Repr, DecidableEq

namespace Rotation

/-- a rotation at its first tip -/
def start (tips : List String) : Rotation := ⟨tips, 0⟩

variable (r : Rotation)

def size : Nat := r.tips.length

/-- the tip shown, if there is one -/
def current? : Option String := r.tips[r.position]?

/-- the rotation at the next tip; without tips it stays -/
def advance : Rotation :=
  if r.tips = [] then r else { r with position := (r.position + 1) % r.size }

theorem advance_nil (n : Nat) : advance ⟨[], n⟩ = ⟨[], n⟩ := rfl

end Rotation

end SoqlForm
