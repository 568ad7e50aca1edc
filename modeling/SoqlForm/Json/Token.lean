import SoqlForm.Json.Basic
import SoqlForm.Json.StringLiteral

/-!
# JSON: tokens

The text of a document is a list of tokens with space between them.

* `Token.text`     a token as it is written;
* `Token.next?`    the token at the head of a text, and the rest;
* `Token.list?`    the tokens of a whole text.

A number is the longest run of characters that numbers are made of, so `1-2` is no number and
no two numbers.
-/

namespace SoqlForm.Json

inductive Token where
  | scalar (s : Scalar)
  | openArray
  | closeArray
  | openObject
  | closeObject
  | comma
  | colon
  deriving Repr, DecidableEq

def Scalar.text : Scalar → List Char
  | .null => ['n', 'u', 'l', 'l']
  | .bool true => ['t', 'r', 'u', 'e']
  | .bool false => ['f', 'a', 'l', 's', 'e']
  | .number n => n.text.toList
  | .string t => stringLiteral t

namespace Token

def text : Token → List Char
  | .scalar s => s.text
  | .openArray => ['[']
  | .closeArray => [']']
  | .openObject => ['{']
  | .closeObject => ['}']
  | .comma => [',']
  | .colon => [':']

/-- the space that may stand between tokens -/
def isSpace (c : Char) : Bool := c == ' ' || c == '\n' || c == '\r' || c == '\t'

/-- the characters that numbers are made of -/
def isNumberChar (c : Char) : Bool :=
  c.isDigit || c == '-' || c == '+' || c == '.' || c == 'e' || c == 'E'

/-- the number at the head of a text, and the rest -/
def number? (cs : List Char) : Option (Token × List Char) :=
  if h : isNumber (cs.takeWhile isNumberChar) = true then
    some (.scalar (.number ⟨String.ofList (cs.takeWhile isNumberChar), by simpa using h⟩),
      cs.dropWhile isNumberChar)
  else none

/-- the token at the head of a text, and the rest -/
def next? : List Char → Option (Token × List Char)
  | '[' :: r => some (.openArray, r)
  | ']' :: r => some (.closeArray, r)
  | '{' :: r => some (.openObject, r)
  | '}' :: r => some (.closeObject, r)
  | ',' :: r => some (.comma, r)
  | ':' :: r => some (.colon, r)
  | 'n' :: 'u' :: 'l' :: 'l' :: r => some (.scalar .null, r)
  | 't' :: 'r' :: 'u' :: 'e' :: r => some (.scalar (.bool true), r)
  | 'f' :: 'a' :: 'l' :: 's' :: 'e' :: r => some (.scalar (.bool false), r)
  | '"' :: r => (readString? r).map fun (t, r) => (.scalar (.string t), r)
  | cs => number? cs

theorem isNumber_nil : isNumber [] = false := rfl

theorem length_number? {cs r : List Char} {t : Token} (h : number? cs = some (t, r)) :
    r.length < cs.length := by
  unfold number? at h
  split at h
  · next hn =>
    simp only [Option.some.injEq, Prod.mk.injEq] at h
    obtain ⟨_, rfl⟩ := h
    have hne : 0 < (cs.takeWhile isNumberChar).length := by
      rcases hc : cs.takeWhile isNumberChar with _ | ⟨c, l⟩
      · rw [hc, isNumber_nil] at hn; exact absurd hn (by decide)
      · simp
    have := congrArg List.length (List.takeWhile_append_dropWhile (p := isNumberChar) (l := cs))
    rw [List.length_append] at this
    omega
  · simp at h

theorem length_next? {cs r : List Char} {t : Token} (h : next? cs = some (t, r)) :
    r.length < cs.length := by
  unfold next? at h
  split at h
  case h_10 r' =>
    rw [Option.map_eq_some_iff] at h
    obtain ⟨⟨t', r''⟩, hs, he⟩ := h
    simp only [Prod.mk.injEq] at he
    obtain ⟨_, rfl⟩ := he
    have := length_readString? hs
    simp only [List.length_cons]
    omega
  case h_11 => exact length_number? h
  all_goals
    simp only [Option.some.injEq, Prod.mk.injEq] at h
    obtain ⟨_, rfl⟩ := h
    simp only [List.length_cons]
    omega

/-- the tokens of a text, behind those already read, last token first -/
def listFrom (done : List Token) : List Char → Option (List Token)
  | [] => some done.reverse
  | c :: cs =>
    if isSpace c then listFrom done cs
    else
      match _h : next? (c :: cs) with
      | some (t, r) => listFrom (t :: done) r
      | none => none
termination_by cs => cs.length
decreasing_by
  · simp
  · exact length_next? _h

/-- the tokens of a whole text -/
def list? (cs : List Char) : Option (List Token) := listFrom [] cs

end Token

end SoqlForm.Json
