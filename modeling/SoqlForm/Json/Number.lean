import Std.Data.String.ToInt

/-!
# JSON: number literals

A number is kept as it is written, so that it can be given back unchanged, together with the proof
that it is a JSON number: an optional minus sign, an integer part without leading zeros, an
optional fraction, an optional exponent.

* `isNumber`          the grammar;
* `Number.ofInt`      the decimal literal of an integer;
* `Number.integer?`   the value of an integer literal; a literal with a fraction or an exponent is
                      none, and neither is `-0`.
-/

namespace SoqlForm.Json

/-! ### grammar -/

/-- one digit at least, and nothing else -/
def areDigits (cs : List Char) : Bool := !cs.isEmpty && cs.all Char.isDigit

/-- an exponent or nothing -/
def isExponentPart : List Char → Bool
  | [] => true
  | c :: '+' :: r => (c == 'e' || c == 'E') && areDigits r
  | c :: '-' :: r => (c == 'e' || c == 'E') && areDigits r
  | c :: r => (c == 'e' || c == 'E') && areDigits r

/-- what may follow the integer part: a fraction or nothing, then an exponent or nothing -/
def isFractionPart : List Char → Bool
  | '.' :: r => areDigits (r.takeWhile Char.isDigit) && isExponentPart (r.dropWhile Char.isDigit)
  | r => isExponentPart r

/-- a number without its sign -/
def isMagnitude : List Char → Bool
  | [] => false
  | c :: r =>
    if c = '0' then isFractionPart r
    else c.isDigit && isFractionPart (r.dropWhile Char.isDigit)

/-- the number literals of JSON -/
def isNumber : List Char → Bool
  | '-' :: r => isMagnitude r
  | r => isMagnitude r

/-! ### decimal literals of integers -/

theorem isDigit_of_mem_toDigits {n : Nat} {c : Char} (h : c ∈ Nat.toDigits 10 n) :
    c.isDigit = true :=
  Nat.isDigit_of_mem_toDigits (by decide) (by decide) h

/-- a positive decimal does not begin with zero -/
theorem toDigits_head_ne {n : Nat} (hn : 0 < n) :
    ∃ c r, Nat.toDigits 10 n = c :: r ∧ c ≠ '0' := by
  induction n using Nat.strongRecOn with
  | ind n ih =>
    rw [Nat.toDigits_eq_if (by decide)]
    split
    · next h =>
      refine ⟨_, _, rfl, ?_⟩
      have : n = 1 ∨ n = 2 ∨ n = 3 ∨ n = 4 ∨ n = 5 ∨ n = 6 ∨ n = 7 ∨ n = 8 ∨ n = 9 := by omega
      rcases this with h | h | h | h | h | h | h | h | h <;> subst h <;> decide
    · next h =>
      obtain ⟨c, r, hr, hc⟩ := ih (n / 10) (by omega) (by omega)
      exact ⟨c, r ++ [(n % 10).digitChar], by rw [hr]; rfl, hc⟩

theorem dropWhile_eq_nil {p : Char → Bool} {cs : List Char} (h : ∀ c ∈ cs, p c = true) :
    cs.dropWhile p = [] := by
  induction cs with
  | nil => rfl
  | cons c cs ih =>
    rw [List.dropWhile_cons_of_pos (h c (List.mem_cons_self ..))]
    exact ih fun x hx => h x (List.mem_cons_of_mem _ hx)

theorem isMagnitude_toDigits (n : Nat) : isMagnitude (Nat.toDigits 10 n) = true := by
  rcases Nat.eq_zero_or_pos n with rfl | hn
  · decide
  · obtain ⟨c, r, hr, hc⟩ := toDigits_head_ne hn
    have hd : ∀ x ∈ c :: r, x.isDigit = true := fun x hx =>
      isDigit_of_mem_toDigits (n := n) (hr ▸ hx)
    have hdrop : r.dropWhile Char.isDigit = [] :=
      dropWhile_eq_nil fun x hx => hd x (List.mem_cons_of_mem _ hx)
    simp [hr, isMagnitude, hc, hd c (List.mem_cons_self ..), hdrop, isFractionPart, isExponentPart]

theorem isNumber_of_isMagnitude {cs : List Char} (h : isMagnitude cs = true) :
    isNumber cs = true := by
  unfold isNumber
  split
  · exact absurd h (by simp [isMagnitude])
  · exact h

/-! ### numbers -/

/-- a number literal -/
structure Number where
  text : String
  valid : isNumber text.toList = true
  deriving DecidableEq

instance : Repr Number := ⟨fun n _ => n.text⟩

namespace Number

/-- the literal of a natural number -/
def ofNat (n : Nat) : Number where
  text := n.repr
  valid := by
    rw [Nat.toList_repr]
    exact isNumber_of_isMagnitude (isMagnitude_toDigits n)

/-- the literal of an integer -/
def ofInt (i : Int) : Number where
  text := i.repr
  valid := by
    rw [Int.repr_eq_if]
    split
    · rw [Nat.toList_repr]
      exact isNumber_of_isMagnitude (isMagnitude_toDigits _)
    · rw [String.toList_append, Nat.toList_repr]
      exact isMagnitude_toDigits _

/-- the value of an integer literal -/
def integer? (n : Number) : Option Int := if n.text = "-0" then none else n.text.toInt?

theorem integer?_ofInt (i : Int) : (ofInt i).integer? = some i := by
  have h : (ofInt i).text ≠ "-0" := by
    show i.repr ≠ "-0"
    rw [Int.repr_eq_if]
    split
    · intro h
      have := isMagnitude_toDigits i.toNat
      rw [← Nat.toList_repr, h] at this
      exact absurd this (by decide)
    · intro h
      have h0 : (-i).toNat.repr.toList = (0 : Nat).repr.toList := by
        have := congrArg String.toList h
        rw [String.toList_append] at this
        exact List.append_cancel_left (this.trans (by decide : "-0".toList = "-".toList ++ _))
      have := Nat.repr_injective (String.toList_injective h0)
      omega
  rw [integer?, if_neg h]
  exact Int.toInt?_repr i

end Number

end SoqlForm.Json
