import SoqlForm.Json.Token
import SoqlForm.Proofs.Json.StringLiteral
import SoqlForm.Proofs.Text.Split
import Mathlib.Data.List.Chain
import Mathlib.Data.List.TakeWhile

/-!
# JSON: every layout of tokens is read

The tokens of a document may have any space around them, and strings any spelling.

* `Token.Spells`       the spellings of a token;
* `Token.Laid`         the texts with given tokens;
* `next?_of_spells`    a token is read at the head of a text, up to what follows it;
* `list?_of_laid`      all tokens of a text are read.

A number goes on as long as it can, so two scalars have to be apart: `list?_of_laid` asks that no
scalar follows another one, as in the tokens of any value.
-/

namespace SoqlForm.Json.Token

open Text

variable {t : Token} {ts : List Token} {cs r : List Char}

/-! ### the characters of a number -/

theorem isNumberChar_of_isDigit {c : Char} (h : c.isDigit = true) : isNumberChar c = true := by
  rw [isNumberChar, h]
  rfl

theorem isNumberChar_of_areDigits (h : areDigits cs = true) :
    ∀ c ∈ cs, isNumberChar c = true := by
  rw [areDigits, Bool.and_eq_true] at h
  intro c hc
  exact isNumberChar_of_isDigit (List.all_eq_true.mp h.2 c hc)

/-- digits at the head of a text may be left out of account -/
theorem isNumberChar_of_dropWhile (h : ∀ c ∈ cs.dropWhile Char.isDigit, isNumberChar c = true) :
    ∀ c ∈ cs, isNumberChar c = true := by
  intro c hc
  rw [← List.takeWhile_append_dropWhile (p := Char.isDigit) (l := cs), List.mem_append] at hc
  rcases hc with hc | hc
  · exact isNumberChar_of_isDigit (List.mem_takeWhile_imp hc)
  · exact h c hc

theorem isNumberChar_of_exponentMark {c : Char} (h : (c == 'e' || c == 'E') = true) :
    isNumberChar c = true := by
  rw [Bool.or_eq_true, beq_iff_eq, beq_iff_eq] at h
  rcases h with rfl | rfl <;> rfl

theorem isNumberChar_of_isExponentPart (h : isExponentPart cs = true) :
    ∀ c ∈ cs, isNumberChar c = true := by
  unfold isExponentPart at h
  split at h
  · exact nofun
  all_goals
    rw [Bool.and_eq_true] at h
    have hmark := isNumberChar_of_exponentMark h.1
    have hdigits := isNumberChar_of_areDigits h.2
  · exact List.forall_mem_cons.mpr ⟨hmark, List.forall_mem_cons.mpr ⟨rfl, hdigits⟩⟩
  · exact List.forall_mem_cons.mpr ⟨hmark, List.forall_mem_cons.mpr ⟨rfl, hdigits⟩⟩
  · exact List.forall_mem_cons.mpr ⟨hmark, hdigits⟩

theorem isNumberChar_of_isFractionPart (h : isFractionPart cs = true) :
    ∀ c ∈ cs, isNumberChar c = true := by
  unfold isFractionPart at h
  split at h
  · rw [Bool.and_eq_true] at h
    have hexponent := isNumberChar_of_isExponentPart h.2
    exact List.forall_mem_cons.mpr ⟨rfl, isNumberChar_of_dropWhile hexponent⟩
  · exact isNumberChar_of_isExponentPart h

theorem isNumberChar_of_isMagnitude (h : isMagnitude cs = true) :
    ∀ c ∈ cs, isNumberChar c = true := by
  cases cs with
  | nil => cases h
  | cons c cs =>
    rw [isMagnitude] at h
    split at h
    · next hc => exact List.forall_mem_cons.mpr ⟨hc ▸ rfl, isNumberChar_of_isFractionPart h⟩
    · rw [Bool.and_eq_true] at h
      have hfraction := isNumberChar_of_isFractionPart h.2
      exact List.forall_mem_cons.mpr
        ⟨isNumberChar_of_isDigit h.1, isNumberChar_of_dropWhile hfraction⟩

theorem isNumberChar_of_isNumber (h : isNumber cs = true) : ∀ c ∈ cs, isNumberChar c = true := by
  unfold isNumber at h
  split at h
  · exact List.forall_mem_cons.mpr ⟨rfl, isNumberChar_of_isMagnitude h⟩
  · exact isNumberChar_of_isMagnitude h

theorem number_head (n : Number) :
    ∃ c cs, n.text.toList = c :: cs ∧ isNumberChar c = true := by
  have hchars := isNumberChar_of_isNumber n.valid
  cases hn : n.text.toList with
  | nil => exact absurd n.valid (by rw [hn, isNumber_nil]; exact Bool.false_ne_true)
  | cons c cs => exact ⟨c, cs, rfl, hchars c (hn ▸ List.mem_cons_self)⟩

/-! ### reading a number -/

def endsNumber (c : Char) : Bool := !isNumberChar c

theorem endsNumber_of_isSpace {c : Char} (h : isSpace c = true) : endsNumber c = true := by
  simp only [isSpace, Bool.or_eq_true, beq_iff_eq] at h
  rcases h with ((rfl | rfl) | rfl) | rfl <;> rfl

theorem number?_append (n : Number) (hr : Stops endsNumber r) :
    number? (n.text.toList ++ r) = some (.scalar (.number n), r) := by
  have hnumber : ∀ c ∈ n.text.toList, endsNumber c = false := by
    intro c hc
    rw [endsNumber, isNumberChar_of_isNumber n.valid c hc]
    rfl
  have htake : (n.text.toList ++ r).takeWhile isNumberChar = n.text.toList := by
    simpa [endsNumber] using takeWhile_append_of_stops hnumber hr
  have hdrop : (n.text.toList ++ r).dropWhile isNumberChar = r := by
    have h := List.takeWhile_append_dropWhile (p := isNumberChar) (l := n.text.toList ++ r)
    rw [htake] at h
    exact List.append_cancel_left h
  rw [number?, dif_pos (by rw [htake]; exact n.valid)]
  simp [htake, hdrop]

/-- no other token begins with a character of a number -/
theorem next?_of_isNumberChar {c : Char} (hc : isNumberChar c = true) :
    next? (c :: cs) = number? (c :: cs) := by
  unfold next?
  split
  case h_11 => rfl
  all_goals
    next heq =>
      cases heq
      cases hc

theorem next?_number (n : Number) (hr : Stops endsNumber r) :
    next? (n.text.toList ++ r) = some (.scalar (.number n), r) := by
  have hread := number?_append n hr
  obtain ⟨c, cs, hn, hc⟩ := number_head n
  rw [hn, List.cons_append] at hread ⊢
  rw [next?_of_isNumberChar hc, hread]

/-! ### reading a token -/

inductive Spells : List Char → Token → Prop
  /-- a token as it is written -/
  | exact (t : Token) : Spells t.text t
  /-- a string in any spelling -/
  | string {cs : List Char} {k : Collector} (h : Collector.empty.Spells cs k) :
      Spells ('"' :: (cs ++ ['"'])) (.scalar (.string k.text?))

def isScalar : Token → Bool
  | .scalar _ => true
  | _ => false

theorem next?_string {k : Collector} (h : Collector.empty.Spells cs k) :
    next? ('"' :: (cs ++ ['"']) ++ r) = some (.scalar (.string k.text?), r) := by
  rw [List.cons_append, List.append_assoc, List.singleton_append, next?, readString?_of_spells h]
  rfl

/-- a token, with a text behind it that does not go on with a number -/
theorem next?_of_spells (h : Spells cs t) (hr : t.isScalar = true → Stops endsNumber r) :
    next? (cs ++ r) = some (t, r) := by
  cases h with
  | string h => exact next?_string h
  | exact =>
    cases t with
    | scalar s =>
      cases s with
      | null => rfl
      | bool b => cases b <;> rfl
      | number n => exact next?_number n (hr rfl)
      | string text =>
        obtain ⟨cs, k, hwritten, hspells, htext⟩ := exists_spells_stringLiteral text
        subst htext
        show next? (stringLiteral k.text? ++ r) = _
        rw [hwritten]
        exact next?_string hspells
    | _ => rfl

/-! ### reading all tokens -/

/-- the texts with given tokens: any space before, between and behind them -/
inductive Laid : List Token → List Char → Prop
  | nil : Laid [] []
  | space {ts : List Token} {c : Char} {cs : List Char} (hc : isSpace c = true)
      (rest : Laid ts cs) : Laid ts (c :: cs)
  | token {t : Token} {ts : List Token} {cs r : List Char} (h : Spells cs t) (rest : Laid ts r) :
      Laid (t :: ts) (cs ++ r)

/-- the text of tokens without any space -/
theorem laid_text (ts : List Token) : Laid ts (ts.flatMap text) := by
  induction ts with
  | nil => exact .nil
  | cons t ts ih => exact .token (.exact t) ih

/-- one of two tokens in succession is no scalar -/
def Apart (a b : Token) : Prop := a.isScalar = true → b.isScalar = false

/-- a token begins neither with space nor, unless it is a scalar, with a character of a number -/
theorem Spells.head (h : Spells cs t) :
    ∃ c r, cs = c :: r ∧ isSpace c = false ∧ (t.isScalar = false → endsNumber c = true) := by
  cases h with
  | string => exact ⟨_, _, rfl, rfl, nofun⟩
  | exact =>
    cases t with
    | scalar s =>
      cases s with
      | number n =>
        obtain ⟨c, r, hn, hc⟩ := number_head n
        refine ⟨c, r, hn, Bool.eq_false_iff.mpr fun hspace => ?_, nofun⟩
        have hend := endsNumber_of_isSpace hspace
        rw [endsNumber, hc] at hend
        cases hend
      | bool b => cases b <;> exact ⟨_, _, rfl, rfl, nofun⟩
      | _ => exact ⟨_, _, rfl, rfl, nofun⟩
    | _ => exact ⟨_, _, rfl, rfl, fun _ => rfl⟩

/-- tokens of which the first is no scalar do not go on with a number -/
theorem Laid.stops (h : Laid ts r) (hts : ∀ t ∈ ts.head?, t.isScalar = false) :
    Stops endsNumber r := by
  cases h with
  | nil => exact nofun
  | space hc => exact stops_cons (endsNumber_of_isSpace hc) _
  | token hspells =>
    obtain ⟨c, cs, rfl, _, hc⟩ := hspells.head
    exact stops_cons (hc (hts _ rfl)) _

theorem listFrom_space (done : List Token) {c : Char} (hc : isSpace c = true) :
    listFrom done (c :: cs) = listFrom done cs := by
  rw [listFrom, if_pos hc]

theorem listFrom_token (done : List Token) {c : Char} (hc : isSpace c = false)
    (h : next? (c :: cs) = some (t, r)) : listFrom done (c :: cs) = listFrom (t :: done) r := by
  rw [listFrom, if_neg (by simp [hc])]
  split
  · next h' =>
    rw [h] at h'
    cases h'
    rfl
  · next h' =>
    rw [h] at h'
    cases h'

theorem listFrom_of_laid (h : Laid ts cs) (hts : ts.IsChain Apart) (done : List Token) :
    listFrom done cs = some (done.reverse ++ ts) := by
  induction h generalizing done with
  | nil => rw [listFrom, List.append_nil]
  | space hc _ ih => rw [listFrom_space done hc, ih hts]
  | @token t ts cs r hspells hlaid ih =>
    have hstops : t.isScalar = true → Stops endsNumber r :=
      fun ht => hlaid.stops fun t' ht' => hts.rel_head? ht' ht
    have hnext := next?_of_spells hspells hstops
    obtain ⟨c, cs', rfl, hc, _⟩ := hspells.head
    rw [List.cons_append] at hnext ⊢
    rw [listFrom_token done hc hnext, ih hts.tail, List.reverse_cons, List.append_assoc,
      List.singleton_append]

/-- the tokens of a text, whatever its layout -/
theorem list?_of_laid (h : Laid ts cs) (hts : ts.IsChain Apart) : list? cs = some ts :=
  listFrom_of_laid h hts []

end SoqlForm.Json.Token
