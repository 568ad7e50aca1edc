import Mathlib.Algebra.Order.Field.Power
import Mathlib.Data.List.TakeWhile
import Mathlib.Data.Rat.Cast.Order
import Mathlib.Tactic.FieldSimp
import Mathlib.Tactic.Positivity
import Mathlib.Tactic.Ring
import SoqlForm.Proofs.Text.Split
import SoqlForm.Text.Numeral

/-!
# Text: what a numeral is, and its exact magnitude

A numeral is read just if it is spelled by the grammar, and it stays finite just if its magnitude,
as a rational number, is below the rounding limit.

* `Numeral.Spells`          the grammar, and the parts of a numeral that it spells;
* `Numeral.read?_eq_some_iff`   the reader accepts what the grammar derives;
* `Numeral.magnitude`       the exact decimal value without its sign;
* `Numeral.isFinite_iff`    the bounds of `Numeral.isFinite` decide as the exact comparison does.
-/

namespace SoqlForm.Text.Numeral

variable {cs ds r : List Char} {n : Numeral} {negative : Bool} {k : Int}

/-! ### the grammar -/

def AreDigits (ds : List Char) : Prop := ∀ c ∈ ds, c.isDigit = true

inductive IsSign : Bool → List Char → Prop
  | none : IsSign false []
  | plus : IsSign false ['+']
  | minus : IsSign true ['-']

inductive IsFraction : List Char → List Char → Prop
  | none : IsFraction [] []
  | point {ds : List Char} (digits : AreDigits ds) : IsFraction ds ('.' :: ds)

/-- an optional exponent: a letter, an optional sign and one digit at least -/
inductive IsExponent : Int → List Char → Prop
  | none : IsExponent 0 []
  | scaled {letter : Char} {negative : Bool} {sign ds : List Char}
      (hletter : letter = 'e' ∨ letter = 'E') (hsign : IsSign negative sign) (hne : ds ≠ [])
      (hdigits : AreDigits ds) :
      IsExponent (if negative then -(digitsValue ds : Int) else digitsValue ds)
        (letter :: (sign ++ ds))

/-- the texts that spell a numeral: an optional sign, digits with an optional fraction, one digit
at least, and an optional exponent -/
inductive Spells (n : Numeral) : List Char → Prop
  | mk {negative : Bool} {sign fraction exponent : List Char} (hsign : IsSign negative sign)
      (hwhole : AreDigits n.whole) (hfraction : IsFraction n.fraction fraction)
      (hsome : n.whole ++ n.fraction ≠ []) (hexponent : IsExponent n.exponent exponent) :
      Spells n (sign ++ (n.whole ++ (fraction ++ exponent)))

theorem IsFraction.areDigits (h : IsFraction ds r) : AreDigits ds := by
  cases h with
  | none => exact nofun
  | point digits => exact digits

theorem Spells.areDigits_whole (h : n.Spells cs) : AreDigits n.whole := by
  obtain ⟨_, hwhole, _⟩ := h
  exact hwhole

theorem Spells.areDigits_fraction (h : n.Spells cs) : AreDigits n.fraction := by
  obtain ⟨_, _, hfraction, _⟩ := h
  exact hfraction.areDigits

/-! ### the reader and the grammar -/

theorem isDigit_of_mem_takeWhile (cs : List Char) : AreDigits (cs.takeWhile Char.isDigit) :=
  fun _ hc => List.mem_takeWhile_imp hc

/-- digits end at the first character that is none -/
theorem span_digits (hds : AreDigits ds) (hr : Stops (!Char.isDigit ·) r) :
    (ds ++ r).takeWhile Char.isDigit = ds ∧ (ds ++ r).dropWhile Char.isDigit = r := by
  have hds' : ∀ c ∈ ds, (!c.isDigit) = false := fun c hc => by rw [hds c hc]; rfl
  have htake := takeWhile_append_of_stops hds' hr
  have hdrop := dropWhile_append_of_stops hds' hr
  simp only [Bool.not_not] at htake hdrop
  exact ⟨htake, hdrop⟩

theorem exists_isSign (cs : List Char) : ∃ s, cs = s ++ (sign cs).2 ∧ IsSign (sign cs).1 s := by
  unfold sign
  split
  · exact ⟨['-'], rfl, .minus⟩
  · exact ⟨['+'], rfl, .plus⟩
  · exact ⟨[], rfl, .none⟩

def isUnsigned (c : Char) : Bool := c != '+' && c != '-'

theorem isUnsigned_of_isDigit {c : Char} (h : c.isDigit = true) : isUnsigned c = true := by
  rw [isUnsigned, Bool.and_eq_true, bne_iff_ne, bne_iff_ne]
  constructor <;> rintro rfl <;> cases h

theorem sign_append {s : List Char} (hs : IsSign negative s) (hr : Stops isUnsigned r) :
    sign (s ++ r) = (negative, r) := by
  cases hs with
  | none =>
    cases r with
    | nil => rfl
    | cons c r =>
      have hc : isUnsigned c = true := hr c rfl
      rw [isUnsigned, Bool.and_eq_true, bne_iff_ne, bne_iff_ne] at hc
      rw [List.nil_append, sign]
      · rintro t ⟨⟩
        exact hc.2 rfl
      · rintro t ⟨⟩
        exact hc.1 rfl
  | plus => rfl
  | minus => rfl

theorem exists_isFraction (cs : List Char) :
    ∃ f, cs = f ++ (splitFraction cs).2 ∧ IsFraction (splitFraction cs).1 f := by
  unfold splitFraction
  split
  · next r =>
    refine ⟨'.' :: r.takeWhile Char.isDigit, ?_, .point (isDigit_of_mem_takeWhile r)⟩
    rw [List.cons_append, List.takeWhile_append_dropWhile]
  · exact ⟨[], rfl, .none⟩

def endsMantissa (c : Char) : Bool := !c.isDigit && c != '.'

theorem splitFraction_append {f : List Char} (hf : IsFraction ds f) (hr : Stops endsMantissa r) :
    splitFraction (f ++ r) = (ds, r) := by
  have hends : ∀ c ∈ r.head?, (!c.isDigit) = true ∧ c ≠ '.' := by
    intro c hc
    have hc := hr c hc
    rw [endsMantissa, Bool.and_eq_true, bne_iff_ne] at hc
    exact hc
  cases hf with
  | none =>
    cases r with
    | nil => rfl
    | cons c r =>
      rw [List.nil_append, splitFraction]
      rintro t ⟨⟩
      exact (hends '.' rfl).2 rfl
  | point digits =>
    obtain ⟨htake, hdrop⟩ := span_digits digits (fun c hc => (hends c hc).1)
    rw [List.cons_append, splitFraction, htake, hdrop]

theorem readExponent?_eq_some_iff : readExponent? cs = some k ↔
    ∃ negative s ds, cs = s ++ ds ∧ IsSign negative s ∧ ds ≠ [] ∧ AreDigits ds ∧
      k = if negative then -(digitsValue ds : Int) else digitsValue ds := by
  have hdigits : ∀ ds : List Char, (ds.isEmpty || !ds.all Char.isDigit) = false ↔
      ds ≠ [] ∧ AreDigits ds := by
    intro ds
    rw [Bool.or_eq_false_iff, Bool.not_eq_false', List.isEmpty_eq_false_iff, List.all_eq_true]
    rfl
  constructor
  · intro h
    obtain ⟨s, hcs, hs⟩ := exists_isSign cs
    unfold readExponent? at h
    split at h
    next negative ds hsign =>
    rw [hsign] at hcs hs
    split at h
    · cases h
    · next hds =>
      obtain ⟨hne, hds⟩ := (hdigits ds).mp (Bool.eq_false_iff.mpr hds)
      exact ⟨negative, s, ds, hcs, hs, hne, hds, (Option.some.inj h).symm⟩
  · rintro ⟨negative, s, ds, rfl, hs, hne, hds, rfl⟩
    have hunsigned : Stops isUnsigned ds :=
      fun c hc => isUnsigned_of_isDigit (hds c (List.mem_of_mem_head? hc))
    unfold readExponent?
    rw [sign_append hs hunsigned]
    simp only [(hdigits ds).mpr ⟨hne, hds⟩, Bool.false_eq_true, if_false]

theorem readTail?_eq_some_iff : readTail? cs = some k ↔ IsExponent k cs := by
  constructor
  · intro h
    cases cs with
    | nil => cases h; exact .none
    | cons c cs =>
      rw [readTail?] at h
      split at h
      · next hc =>
        obtain ⟨negative, s, ds, rfl, hs, hne, hds, rfl⟩ := readExponent?_eq_some_iff.mp h
        exact .scaled hc hs hne hds
      · cases h
  · intro h
    cases h with
    | none => rfl
    | scaled hletter hsign hne hdigits =>
      rw [readTail?, if_pos hletter]
      exact readExponent?_eq_some_iff.mpr ⟨_, _, _, rfl, hsign, hne, hdigits, rfl⟩

theorem IsExponent.stops (h : IsExponent k r) : Stops endsMantissa r := by
  cases h with
  | none => exact nofun
  | scaled hletter =>
    refine stops_cons ?_ _
    rcases hletter with rfl | rfl <;> rfl

/-- behind the sign a numeral begins with a digit or a point -/
theorem stops_isUnsigned {ws f : List Char} (hws : AreDigits ws) (hf : IsFraction ds f)
    (hsome : ws ++ ds ≠ []) : Stops isUnsigned (ws ++ (f ++ r)) := by
  cases ws with
  | cons c ws => exact stops_cons (isUnsigned_of_isDigit (hws c List.mem_cons_self)) _
  | nil =>
    cases hf with
    | none => exact absurd rfl hsome
    | point => exact stops_cons rfl _

theorem stops_not_isDigit {f : List Char} (hf : IsFraction ds f) (hr : IsExponent k r) :
    Stops (!Char.isDigit ·) (f ++ r) := by
  cases hf with
  | none =>
    intro c hc
    have hends := hr.stops c hc
    rw [endsMantissa, Bool.and_eq_true] at hends
    exact hends.1
  | point => exact stops_cons rfl _

theorem isEmpty_and_isEmpty (as bs : List Char) :
    (as.isEmpty && bs.isEmpty) = true ↔ as ++ bs = [] := by
  rw [Bool.and_eq_true, List.isEmpty_iff, List.isEmpty_iff, List.append_eq_nil_iff]

/-- **A text is read as a numeral just if it spells this numeral.** -/
theorem read?_eq_some_iff : read? cs = some n ↔ n.Spells cs := by
  constructor
  · intro h
    obtain ⟨s, hcs, hs⟩ := exists_isSign cs
    obtain ⟨f, hf, hfraction⟩ := exists_isFraction ((sign cs).2.dropWhile Char.isDigit)
    rw [read?] at h
    split at h
    next fraction tail hsplit =>
    rw [hsplit] at hf hfraction
    split at h
    · cases h
    · next hsome =>
      obtain ⟨exponent, htail, rfl⟩ := Option.map_eq_some_iff.mp h
      have hparts : cs = s ++ ((sign cs).2.takeWhile Char.isDigit ++ (f ++ tail)) := by
        rw [← hf, List.takeWhile_append_dropWhile, ← hcs]
      have hspells := Spells.mk (n := ⟨(sign cs).2.takeWhile Char.isDigit, fraction, exponent⟩) hs
        (isDigit_of_mem_takeWhile _) hfraction (mt (isEmpty_and_isEmpty _ _).mpr hsome)
        (readTail?_eq_some_iff.mp htail)
      rw [← hparts] at hspells
      exact hspells
  · rintro ⟨hs, hwhole, hfraction, hsome, hexponent⟩
    obtain ⟨htake, hdrop⟩ := span_digits hwhole (stops_not_isDigit hfraction hexponent)
    have hsplit := splitFraction_append hfraction hexponent.stops
    have htail := readTail?_eq_some_iff.mpr hexponent
    rw [read?, sign_append hs (stops_isUnsigned hwhole hfraction hsome)]
    simp only [htake, hdrop, hsplit]
    rw [if_neg (mt (isEmpty_and_isEmpty _ _).mp hsome), htail]
    rfl

theorem Spells.unique {m n : Numeral} (hm : m.Spells cs) (hn : n.Spells cs) : m = n :=
  Option.some.inj ((read?_eq_some_iff.mpr hm).symm.trans (read?_eq_some_iff.mpr hn))

/-! ### the magnitude -/

/-- the exact decimal value of a numeral, without its sign -/
def magnitude (n : Numeral) : ℚ :=
  (digitsValue n.whole + digitsValue n.fraction / 10 ^ n.fraction.length) * 10 ^ n.exponent

theorem digitsValue_append (as bs : List Char) :
    digitsValue (as ++ bs) = 10 ^ bs.length * digitsValue as + digitsValue bs := by
  rw [digitsValue, Nat.ofDigitChars_append, Nat.ofDigitChars_eq_ofDigitChars_zero]
  rfl

theorem digitsValue_cons (c : Char) (cs : List Char) :
    digitsValue (c :: cs) = 10 ^ cs.length * (c.toNat - '0'.toNat) + digitsValue cs := by
  rw [digitsValue, Nat.ofDigitChars_cons, Nat.ofDigitChars_eq_ofDigitChars_zero, Nat.mul_zero,
    Nat.zero_add]
  rfl

/-- leading zeros do not count -/
theorem digitsValue_dropWhile (cs : List Char) :
    digitsValue (cs.dropWhile (· == '0')) = digitsValue cs := by
  induction cs with
  | nil => rfl
  | cons c cs ih =>
    by_cases hc : c = '0'
    · subst hc
      rw [List.dropWhile_cons_of_pos rfl, ih, digitsValue_cons, Nat.sub_self, Nat.mul_zero,
        Nat.zero_add]
    · rw [List.dropWhile_cons_of_neg (by simpa using hc)]

/-- a digit that is not zero counts from one to nine -/
theorem digit_bounds {c : Char} (hc : c.isDigit = true) :
    c.toNat - '0'.toNat ≤ 9 ∧ (c ≠ '0' → 1 ≤ c.toNat - '0'.toNat) := by
  obtain ⟨hlow, hhigh⟩ := Char.isDigit_iff_toNat.mp hc
  have hzero : '0'.toNat = 48 := rfl
  have hnine : '9'.toNat = 57 := rfl
  refine ⟨by omega, fun hne => ?_⟩
  have hne' : c.toNat ≠ '0'.toNat := fun h => hne (Char.toNat_inj.mp h)
  omega

theorem digitsValue_lt (hds : AreDigits ds) : digitsValue ds < 10 ^ ds.length := by
  induction ds with
  | nil => decide
  | cons c ds ih =>
    obtain ⟨hc, hds⟩ := List.forall_mem_cons.mp hds
    have hle := Nat.mul_le_mul_left (10 ^ ds.length) (digit_bounds hc).1
    have hlt := ih hds
    rw [digitsValue_cons, List.length_cons, Nat.pow_succ]
    omega

/-- digits that do not begin with a zero -/
theorem le_digitsValue {c : Char} (hc : c.isDigit = true) (hne : c ≠ '0') (cs : List Char) :
    10 ^ cs.length ≤ digitsValue (c :: cs) := by
  have hle := Nat.mul_le_mul_left (10 ^ cs.length) ((digit_bounds hc).2 hne)
  rw [digitsValue_cons]
  omega

theorem cast_digitsValue_significant (n : Numeral) : (digitsValue n.significant : ℚ) =
    10 ^ n.fraction.length * digitsValue n.whole + digitsValue n.fraction := by
  rw [significant, digitsValue_dropWhile, digitsValue_append]
  push_cast
  rfl

/-- the magnitude is that of the significant digits, scaled -/
theorem magnitude_eq (n : Numeral) : n.magnitude = digitsValue n.significant * 10 ^ n.scale := by
  have hpow : (10 : ℚ) ^ n.fraction.length ≠ 0 := pow_ne_zero _ (by norm_num)
  rw [cast_digitsValue_significant, magnitude, scale, zpow_sub₀ (by norm_num : (10 : ℚ) ≠ 0),
    zpow_natCast]
  field_simp

/-! ### the bounds by powers of ten -/

theorem ten_zpow_pos (k : Int) : (0 : ℚ) < 10 ^ k := zpow_pos (by norm_num) k

theorem areDigits_significant (hwhole : AreDigits n.whole) (hfraction : AreDigits n.fraction) :
    AreDigits n.significant := by
  intro c hc
  rcases List.mem_append.mp ((List.dropWhile_sublist _).subset hc) with hc | hc
  · exact hwhole c hc
  · exact hfraction c hc

theorem magnitude_lt (hds : AreDigits n.significant) : n.magnitude < 10 ^ n.order := by
  have hlt : (digitsValue n.significant : ℚ) < 10 ^ n.significant.length := by
    exact_mod_cast digitsValue_lt hds
  rw [magnitude_eq, order, zpow_add₀ (by norm_num), zpow_natCast]
  exact mul_lt_mul_of_pos_right hlt (ten_zpow_pos _)

theorem le_magnitude (hds : AreDigits n.significant) (hne : n.significant ≠ []) :
    10 ^ (n.order - 1) ≤ n.magnitude := by
  cases hcs : n.significant with
  | nil => exact absurd hcs hne
  | cons c cs =>
    have hzero : c ≠ '0' := by
      have hnot := List.head?_dropWhile_not (· == '0') (n.whole ++ n.fraction)
      rw [show ((n.whole ++ n.fraction).dropWhile (· == '0')) = c :: cs from hcs] at hnot
      simpa using hnot
    have hle : (10 : ℚ) ^ cs.length ≤ digitsValue (c :: cs) := by
      exact_mod_cast le_digitsValue (hds c (hcs ▸ List.mem_cons_self)) hzero cs
    have horder : n.order - 1 = cs.length + n.scale := by
      rw [order, hcs, List.length_cons]
      push_cast
      ring
    rw [magnitude_eq, hcs, horder, zpow_add₀ (by norm_num), zpow_natCast]
    exact mul_le_mul_of_nonneg_right hle (ten_zpow_pos _).le

theorem magnitude_of_not_significant (h : n.significant = []) : n.magnitude = 0 := by
  rw [magnitude_eq, h]
  exact zero_mul _

theorem cast_natPow (b k : ℕ) : ((Nat.pow b k : ℕ) : ℚ) = b ^ k := Nat.cast_pow b k

-- The next three lemmas keep the exponents variable: at the constants, unification would compute the
-- powers where it only has to compare them.

theorem cast_two_pow_sub {j k : ℕ} (h : j ≤ k) :
    ((Nat.pow 2 k - Nat.pow 2 j : ℕ) : ℚ) = 2 ^ k - 2 ^ j := by
  have hle : Nat.pow 2 j ≤ Nat.pow 2 k := Nat.pow_le_pow_right (by decide) h
  rw [Nat.cast_sub hle, cast_natPow, cast_natPow]
  rfl

theorem ten_zpow_lt_natCast {k m : ℕ} (h : Nat.pow 10 k < m) : (10 : ℚ) ^ (k : Int) < m := by
  have hcast : ((Nat.pow 10 k : ℕ) : ℚ) < m := Nat.cast_lt.mpr h
  rw [cast_natPow] at hcast
  rw [zpow_natCast]
  exact hcast

theorem natCast_le_ten_zpow {k m : ℕ} (h : m ≤ Nat.pow 10 k) : (m : ℚ) ≤ 10 ^ (k : Int) := by
  have hcast : (m : ℚ) ≤ (Nat.pow 10 k : ℕ) := Nat.cast_le.mpr h
  rw [cast_natPow] at hcast
  rw [zpow_natCast]
  exact hcast

theorem cast_roundingLimit : (roundingLimit : ℚ) = 2 ^ (1024 : ℕ) - 2 ^ (970 : ℕ) := by
  have hle : 970 ≤ 1024 := by decide
  rw [roundingLimit]
  revert hle
  generalize 1024 = k, 970 = j
  exact cast_two_pow_sub

theorem ten_zpow_lt_roundingLimit : (10 : ℚ) ^ (308 : Int) < roundingLimit :=
  ten_zpow_lt_natCast (k := 308) (m := roundingLimit) (by decide +kernel)

theorem roundingLimit_le_ten_zpow : (roundingLimit : ℚ) ≤ 10 ^ (309 : Int) :=
  natCast_le_ten_zpow (k := 309) (m := roundingLimit) (by decide +kernel)

/-- a scaled comparison, with the negative power on the other side -/
theorem mul_zpow_lt_iff (a b : ℕ) (k : Int) :
    (a : ℚ) * 10 ^ k < b ↔ a * Nat.pow 10 k.toNat < b * Nat.pow 10 (-k).toNat := by
  have hcast : ((a * Nat.pow 10 k.toNat : ℕ) : ℚ) < (b * Nat.pow 10 (-k).toNat : ℕ) ↔
      (a : ℚ) * 10 ^ k.toNat < b * 10 ^ (-k).toNat := by
    rw [Nat.cast_mul, Nat.cast_mul, cast_natPow, cast_natPow]
    rfl
  rw [← Nat.cast_lt (α := ℚ), hcast]
  obtain ⟨m, rfl | rfl⟩ := Int.eq_nat_or_neg k
  · rw [zpow_natCast, Int.toNat_natCast, Int.toNat_neg_natCast, pow_zero, mul_one]
  · rw [zpow_neg, zpow_natCast, neg_neg, Int.toNat_natCast, Int.toNat_neg_natCast, pow_zero,
      mul_one, ← div_eq_mul_inv, div_lt_iff₀ (by positivity)]

/-- **A numeral stays finite just if its magnitude is below the rounding limit.** -/
theorem isFinite_iff (hwhole : AreDigits n.whole) (hfraction : AreDigits n.fraction) :
    n.isFinite = true ↔ n.magnitude < 2 ^ (1024 : ℕ) - 2 ^ (970 : ℕ) := by
  have hds := areDigits_significant hwhole hfraction
  rw [← cast_roundingLimit, isFinite]
  split
  · next hsmall =>
    -- no digit counts, or all the digits together stay below the limit
    refine iff_of_true rfl ?_
    rw [Bool.or_eq_true, List.isEmpty_iff, decide_eq_true_iff] at hsmall
    rcases hsmall with hnone | horder
    · rw [magnitude_of_not_significant hnone]
      exact lt_trans (ten_zpow_pos 308) ten_zpow_lt_roundingLimit
    · calc
        n.magnitude < 10 ^ n.order := magnitude_lt hds
        _ ≤ 10 ^ (308 : Int) := zpow_le_zpow_right₀ (by norm_num) horder
        _ < roundingLimit := ten_zpow_lt_roundingLimit
  · next hlarge =>
    rw [Bool.or_eq_true, List.isEmpty_iff, not_or] at hlarge
    split
    · next horder =>
      -- the first digit alone reaches the limit
      refine iff_of_false Bool.false_ne_true (not_lt.mpr ?_)
      calc
        (roundingLimit : ℚ) ≤ 10 ^ (309 : Int) := roundingLimit_le_ten_zpow
        _ ≤ 10 ^ (n.order - 1) := zpow_le_zpow_right₀ (by norm_num) (by omega)
        _ ≤ n.magnitude := le_magnitude hds hlarge.1
    · -- one order is left, and there the integers are compared
      rw [decide_eq_true_iff, magnitude_eq, mul_zpow_lt_iff]

end SoqlForm.Text.Numeral
