import SoqlForm.Json.Text
import SoqlForm.Proofs.Json.Token

/-!
# JSON: every text of a value is read

A value has many texts: its tokens may have space around them, and its strings may be spelled in
several ways.  Each of them is read as the value.

* `IsTextOf v`             the texts of a value;
* `Reader.run_tokens`      the reader gets a value from its tokens, whatever is open around it;
* `Reader.apart_of_run`    tokens that the reader takes hold no scalar behind a scalar;
* `read?_of_isTextOf`      a text of a value is read as this value.
-/

namespace SoqlForm.Json

def IsTextOf (v : Json) (document : String) : Prop := Token.Laid v.tokens document.toList

/-- the compact text of a value is one of its texts -/
theorem isTextOf_text (v : Json) : v.IsTextOf v.text := by
  rw [IsTextOf, text, String.toList_ofList]
  exact Token.laid_text v.tokens

/-! ### the tokens of a value are read -/

namespace Reader

mutual

/-- a value that is due is read and supplied -/
theorem run_tokens (v : Json) (stack : List Frame) (ts : List Token) :
    (value stack).run (v.tokens ++ ts) = (supply v stack).run ts := by
  match v with
  | .scalar s => rw [tokens]; rfl
  | .array vs =>
    rw [tokens]
    exact run_itemTokens vs stack ts
  | .object ms =>
    rw [tokens]
    exact run_memberTokens ms stack ts

theorem run_itemTokens (vs : List Json) (stack : List Frame) (ts : List Token) :
    (value (.item [] :: stack)).run (itemTokens vs ++ ts) = (supply (.array vs) stack).run ts := by
  match vs with
  | [] => rw [itemTokens]; rfl
  | v :: vs =>
    rw [itemTokens, List.append_assoc, run_tokens v]
    exact run_moreItemTokens vs [v] stack ts

theorem run_moreItemTokens (vs done : List Json) (stack : List Frame) (ts : List Token) :
    (items done stack).run (moreItemTokens vs ++ ts)
      = (supply (.array (done.reverse ++ vs)) stack).run ts := by
  match vs with
  | [] => rw [moreItemTokens, List.append_nil]; rfl
  | v :: vs =>
    rw [moreItemTokens, List.cons_append, List.append_assoc]
    show (value (.item done :: stack)).run _ = _
    rw [run_tokens v]
    show (items (v :: done) stack).run _ = _
    rw [run_moreItemTokens vs, List.reverse_cons, List.append_assoc, List.singleton_append]

theorem run_memberTokens (ms : List Member) (stack : List Frame) (ts : List Token) :
    (name [] stack).run (memberTokens ms ++ ts) = (supply (.object ms) stack).run ts := by
  match ms with
  | [] => rw [memberTokens]; rfl
  | (key, v) :: ms =>
    rw [memberTokens, List.cons_append, List.cons_append, List.append_assoc]
    show (value (.member [] key :: stack)).run _ = _
    rw [run_tokens v]
    exact run_moreMemberTokens ms [(key, v)] stack ts

theorem run_moreMemberTokens (ms done : List Member) (stack : List Frame) (ts : List Token) :
    (members done stack).run (moreMemberTokens ms ++ ts)
      = (supply (.object (done.reverse ++ ms)) stack).run ts := by
  match ms with
  | [] => rw [moreMemberTokens, List.append_nil]; rfl
  | (key, v) :: ms =>
    rw [moreMemberTokens, List.cons_append, List.cons_append, List.cons_append, List.append_assoc]
    show (value (.member done key :: stack)).run _ = _
    rw [run_tokens v]
    show (members ((key, v) :: done) stack).run _ = _
    rw [run_moreMemberTokens ms, List.reverse_cons, List.append_assoc, List.singleton_append]

end

theorem run_tokens_self (v : Json) : (value []).run v.tokens = some (complete v) := by
  have h := run_tokens v [] []
  rw [List.append_nil] at h
  exact h

/-! ### the tokens of a value are told apart -/

def TakesScalar (r : Reader) : Prop := ∃ s, (r.step (.scalar s)).isSome = true

theorem not_takesScalar_supply (v : Json) (stack : List Frame) :
    ¬ (supply v stack).TakesScalar := by
  rintro ⟨s, h⟩
  rcases stack with _ | ⟨_ | _, stack⟩ <;> cases h

theorem not_takesScalar_of_step {r r' : Reader} {s : Scalar}
    (h : r.step (.scalar s) = some r') : ¬ r'.TakesScalar := by
  cases r with
  | value stack =>
    cases h
    exact not_takesScalar_supply _ stack
  | name done stack =>
    cases s with
    | string key =>
      cases h
      rintro ⟨s, hs⟩
      cases hs
    | _ => cases h
  | _ => cases h

theorem apart_of_run {r r' : Reader} {ts : List Token} (h : r.run ts = some r') :
    ts.IsChain Token.Apart := by
  induction ts generalizing r with
  | nil => exact .nil
  | cons t ts ih =>
    rw [run] at h
    split at h
    · next r₁ ht =>
      refine (ih h).cons fun t' ht' => ?_
      cases t with
      | scalar s =>
        intro _
        cases t' with
        | scalar s' =>
          -- the reader takes the second scalar too, but expects none behind the first
          cases ts with
          | nil => cases ht'
          | cons t₂ ts =>
            cases ht'
            rw [run] at h
            split at h
            · next h₂ => exact absurd ⟨s', Option.isSome_of_eq_some h₂⟩ (not_takesScalar_of_step ht)
            · cases h
        | _ => rfl
      | _ =>
        intro hscalar
        cases hscalar
    · cases h

end Reader

theorem apart_tokens (v : Json) : v.tokens.IsChain Token.Apart :=
  Reader.apart_of_run (Reader.run_tokens_self v)

/-! ### the texts of a value -/

theorem read?_of_isTextOf {v : Json} {document : String} (h : v.IsTextOf document) :
    read? document = some v := by
  rw [read?, Token.list?_of_laid h v.apart_tokens]
  show ((Reader.value []).run v.tokens >>= fun r => r.value?) = some v
  rw [Reader.run_tokens_self]
  rfl

theorem read?_text (v : Json) : read? v.text = some v := read?_of_isTextOf v.isTextOf_text

end SoqlForm.Json
