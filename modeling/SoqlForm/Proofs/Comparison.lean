import SoqlForm.Comparison
import SoqlForm.Proofs.Text.Words

/-!
# Operators are read by their words

A comparison is read from a text by the words of the text, a connective by the trimmed text, both in
upper case.  No connective has more than one word, so neither the blanks of a text nor the case of
its letters matter to what is read, while the bounds of its words do.

* `upperWords`          the words of a text in upper case;
* `ReadAlike`           two texts that name the same operators, or none;
* `Cut`                 words of which one is cut into several;
* `operator_of_words`   which operator a text names, and when it names none.
-/

namespace SoqlForm

open Text

def upperWords (s : String) : List (List Char) := (words s.toList).map upper

variable {s t : String}

theorem upperWords_eq (s : String) : upperWords s = words (upper s.toList) :=
  (words_upper s.toList).symm

theorem isWord_of_mem_upperWords : ∀ w ∈ upperWords s, IsWord w :=
  (spaced_words s.toList).upper.isWord

/-! ### what is read where an operator may be found -/

section
variable {α : Type} {found : Option α} {a : α} {failure : Failure}

theorem elim_eq_ok_iff : found.elim (.error failure) Except.ok = .ok a ↔ found = some a := by
  cases found with
  | none => exact iff_of_false nofun nofun
  | some b => exact Iff.trans ⟨Except.ok.inj, congrArg Except.ok⟩ Option.some_inj.symm

theorem elim_cases (found : Option α) (failure : Failure) :
    (∃ a, found.elim (.error failure) Except.ok = .ok a) ∨
      found.elim (.error failure) Except.ok = .error failure := by
  cases found with
  | none => exact .inr rfl
  | some a => exact .inl ⟨a, rfl⟩

end

/-! ### comparisons -/

namespace Comparison

variable {c : Comparison}

theorem ofToken?_eq_some_iff : ofToken? s = some c ↔ s = c.token := by
  constructor
  · intro h
    rw [ofToken?] at h
    have named := List.find?_some h
    exact (eq_of_beq named).symm
  · rintro rfl
    exact ofToken?_token c

/-- a token has one space between its words -/
theorem intercalate_words_token (c : Comparison) :
    [' '].intercalate (words c.token.toList) = c.token.toList := by
  cases c <;> rfl

theorem normalize_eq_token_iff : normalize s = c.token ↔ upperWords s = words c.token.toList := by
  have spaced : (normalize s).toList = [' '].intercalate (upperWords s) := by
    rw [normalize, String.toList_ofList, upper_intercalate]
    rfl
  rw [← String.toList_inj, spaced]
  constructor
  · intro h
    rw [← h, words_intercalate isWord_of_mem_upperWords]
  · intro h
    rw [h, intercalate_words_token]

theorem parse_eq (s : String) :
    parse s = (ofToken? (normalize s)).elim (.error (.unknownOperator s)) .ok := by
  unfold parse
  cases ofToken? (normalize s) <;> rfl

theorem parse_eq_ok_iff : parse s = .ok c ↔ upperWords s = words c.token.toList := by
  rw [parse_eq, elim_eq_ok_iff, ofToken?_eq_some_iff, normalize_eq_token_iff]

end Comparison

/-! ### connectives -/

namespace Connective

variable {c : Connective}

theorem ofToken?_eq_some_iff : ofToken? s = some c ↔ s = c.token := by
  constructor
  · intro h
    rw [ofToken?] at h
    have named := List.find?_some h
    exact (eq_of_beq named).symm
  · rintro rfl
    exact ofToken?_token c

theorem parse_eq (s : String) :
    parse s = (ofToken? (String.ofList (upper (trim s.toList)))).elim
      (.error (.unknownOperator s)) .ok := by
  unfold parse
  cases ofToken? (String.ofList (upper (trim s.toList))) <;> rfl

theorem parse_eq_ok_iff : parse s = .ok c ↔ upper (trim s.toList) = c.token.toList := by
  rw [parse_eq, elim_eq_ok_iff, ofToken?_eq_some_iff, ← String.toList_inj, String.toList_ofList]

theorem isWord_token (c : Connective) : IsWord c.token.toList := by
  have whole : c.token.toList.all (!isBlank ·) = true := by cases c <;> rfl
  refine ⟨by cases c <;> exact List.cons_ne_nil _ _, fun x hx => ?_⟩
  rw [← Bool.not_eq_true']
  exact List.all_eq_true.mp whole x hx

theorem words_token (c : Connective) : words c.token.toList = [c.token.toList] :=
  (trim_eq_iff c.isWord_token).mp (trim_eq_self (isTrimmed_of_not_isBlank c.isWord_token.2))

/-- a connective, too, is read by the words of a text -/
theorem parse_eq_ok_iff_upperWords :
    parse s = .ok c ↔ upperWords s = words c.token.toList := by
  rw [words_token, parse_eq_ok_iff]
  exact upper_trim_eq_iff c.isWord_token

end Connective

/-! ### words in other letters, other blanks and other bounds -/

def ReadAlike (s t : String) : Prop :=
  (∀ c, Comparison.parse s = .ok c ↔ Comparison.parse t = .ok c) ∧
    ∀ c, Connective.parse s = .ok c ↔ Connective.parse t = .ok c

theorem readAlike_of_upperWords (h : upperWords s = upperWords t) : ReadAlike s t := by
  constructor
  · intro c
    rw [Comparison.parse_eq_ok_iff, Comparison.parse_eq_ok_iff, h]
  · intro c
    rw [Connective.parse_eq_ok_iff_upperWords, Connective.parse_eq_ok_iff_upperWords, h]

/-- whether other words are some words with one of them cut into two or more -/
def Cut (ws vs : List (List Char)) : Prop :=
  ∃ before parts behind, 2 ≤ parts.length ∧
    ws = before ++ parts.flatten :: behind ∧ vs = before ++ (parts ++ behind)

theorem Cut.length_lt {ws vs : List (List Char)} (h : Cut ws vs) : ws.length < vs.length := by
  obtain ⟨before, parts, behind, hparts, rfl, rfl⟩ := h
  simp only [List.length_append, List.length_cons]
  omega

theorem ne_of_cut {ws vs : List (List Char)} (h : Cut ws vs ∨ Cut vs ws) : vs ≠ ws := by
  rintro rfl
  rcases h with h | h <;> exact Nat.lt_irrefl _ h.length_lt

/-- **An operator is read by its words.**  A text names a comparison just if its words in upper case
are those of the token, and a connective just if it is the token when it is trimmed and in upper
case; the failure otherwise carries the text as it is.  No two operators are named by one text.  The
case of ASCII letters and the blanks between words, before and behind them do not matter; but a text
in which a word of a token is cut into several, or several are made one, does not name the
operator. -/
theorem operator_of_words (s : String) :
    (∀ c, Comparison.parse s = .ok c ↔ upperWords s = words c.token.toList) ∧
      (∀ c, Connective.parse s = .ok c ↔ upper (trim s.toList) = c.token.toList) ∧
      ((∃ c, Comparison.parse s = .ok c) ∨ Comparison.parse s = .error (.unknownOperator s)) ∧
      ((∃ c, Connective.parse s = .ok c) ∨ Connective.parse s = .error (.unknownOperator s)) ∧
      (∀ c d : Comparison, upperWords s = words c.token.toList →
        upperWords s = words d.token.toList → c = d) ∧
      (∀ c d : Connective, upper (trim s.toList) = c.token.toList →
        upper (trim s.toList) = d.token.toList → c = d) ∧
      (∀ t : String, upper s.toList = upper t.toList → ReadAlike s t) ∧
      (∀ (t : String) (ws : List (List Char)), Spaced ws s.toList → Spaced ws t.toList →
        ReadAlike s t) ∧
      (∀ c : Comparison, Cut (words c.token.toList) (upperWords s) ∨
        Cut (upperWords s) (words c.token.toList) → Comparison.parse s ≠ .ok c) ∧
      ∀ c : Connective, Cut (words c.token.toList) (upperWords s) ∨
        Cut (upperWords s) (words c.token.toList) → Connective.parse s ≠ .ok c := by
  refine ⟨fun c => Comparison.parse_eq_ok_iff, fun c => Connective.parse_eq_ok_iff, ?_, ?_, ?_, ?_,
    ?_, ?_, ?_, ?_⟩
  · rw [Comparison.parse_eq]
    exact elim_cases _ _
  · rw [Connective.parse_eq]
    exact elim_cases _ _
  · intro c d hc hd
    rw [← Comparison.parse_eq_ok_iff] at hc hd
    exact Except.ok.inj (hc.symm.trans hd)
  · intro c d hc hd
    rw [← Connective.parse_eq_ok_iff] at hc hd
    exact Except.ok.inj (hc.symm.trans hd)
  · intro t recased
    apply readAlike_of_upperWords
    rw [upperWords_eq, upperWords_eq, recased]
  · intro t ws hs ht
    apply readAlike_of_upperWords
    rw [upperWords, upperWords, hs.words_eq, ht.words_eq]
  · intro c cut named
    exact ne_of_cut cut (Comparison.parse_eq_ok_iff.mp named)
  · intro c cut named
    exact ne_of_cut cut (Connective.parse_eq_ok_iff_upperWords.mp named)

/-- blanks other than spaces, small letters, and two words made one -/
example : Comparison.parse "\tnot\u3000in " = .ok .notAmong ∧
    Comparison.parse "notin" = .error (.unknownOperator "notin") := ⟨rfl, rfl⟩

end SoqlForm
