/-!
# JSON: string literals

A string literal is read behind its opening quote.  Escapes of the form `\u` give UTF-16 units; two
that form a surrogate pair are one character.  A literal with a surrogate on its own is well formed
but names no text, so reading a literal gives an `Option String`.

* `Collector`         the text read so far;
* `readString?`       the text of a literal (or none) and what follows its closing quote;
* `stringLiteral`     a text as a literal: a quote, a backslash and the control characters are
                      escaped, all else is put in as it is.
-/

namespace SoqlForm.Json

/-! ### UTF-16 units -/

def isHighSurrogate (u : Nat) : Bool := 0xD800 ≤ u && u < 0xDC00

def isLowSurrogate (u : Nat) : Bool := 0xDC00 ≤ u && u < 0xE000

def surrogatePair (high low : Nat) : Char :=
  Char.ofNat (0x10000 + (high - 0xD800) * 0x400 + (low - 0xDC00))

/-- the text of a literal as far as it has been read, last character first -/
structure Collector where
  reversed : List Char
  /-- a high surrogate that waits for its low one -/
  high : Option Nat
  /-- whether a surrogate stood on its own -/
  broken : Bool
  deriving Repr, DecidableEq

namespace Collector

def empty : Collector := ⟨[], none, false⟩

/-- a character; a high surrogate before it stays alone -/
def char (k : Collector) (c : Char) : Collector :=
  ⟨c :: k.reversed, none, k.broken || k.high.isSome⟩

/-- an escaped UTF-16 unit -/
def unit (k : Collector) (u : Nat) : Collector :=
  if isHighSurrogate u then ⟨k.reversed, some u, k.broken || k.high.isSome⟩
  else if isLowSurrogate u then
    match k.high with
    | some h => ⟨surrogatePair h u :: k.reversed, none, k.broken⟩
    | none => ⟨k.reversed, none, true⟩
  else k.char (Char.ofNat u)

/-- the text, unless a surrogate stood on its own -/
def text? (k : Collector) : Option String :=
  if k.broken || k.high.isSome then none else some (String.ofList k.reversed.reverse)

end Collector

/-! ### reading -/

def hexDigit? (c : Char) : Option Nat :=
  if '0' ≤ c ∧ c ≤ '9' then some (c.toNat - '0'.toNat)
  else if 'a' ≤ c ∧ c ≤ 'f' then some (c.toNat - 'a'.toNat + 10)
  else if 'A' ≤ c ∧ c ≤ 'F' then some (c.toNat - 'A'.toNat + 10)
  else none

/-- the unit that four hexadecimal digits stand for -/
def hexUnit? (a b c d : Char) : Option Nat := do
  let a ← hexDigit? a
  let b ← hexDigit? b
  let c ← hexDigit? c
  let d ← hexDigit? d
  return ((a * 16 + b) * 16 + c) * 16 + d

def shortEscape? : Char → Option Char
  | '"' => some '"'
  | '\\' => some '\\'
  | '/' => some '/'
  | 'b' => some '\x08'
  | 'f' => some '\x0c'
  | 'n' => some '\n'
  | 'r' => some '\r'
  | 't' => some '\t'
  | _ => none

/-- the control characters, which may stand in a literal only escaped -/
def isControl (c : Char) : Bool := c.toNat < 0x20

/-- reads on up to the closing quote -/
def readStringFrom (k : Collector) : List Char → Option (Option String × List Char)
  | [] => none
  | '"' :: r => some (k.text?, r)
  | '\\' :: 'u' :: a :: b :: c :: d :: r =>
    match hexUnit? a b c d with
    | some u => readStringFrom (k.unit u) r
    | none => none
  | '\\' :: e :: r =>
    match shortEscape? e with
    | some c => readStringFrom (k.char c) r
    | none => none
  | c :: r => if isControl c then none else readStringFrom (k.char c) r

/-- the text of a literal, read behind its opening quote, and the rest -/
def readString? (cs : List Char) : Option (Option String × List Char) :=
  readStringFrom Collector.empty cs

/-- a literal ends with its closing quote, so the rest is shorter -/
theorem length_readStringFrom {cs r : List Char} {k : Collector} {t : Option String}
    (h : readStringFrom k cs = some (t, r)) : r.length < cs.length := by
  fun_induction readStringFrom k cs with
  | case1 => simp at h
  | case2 k r' =>
    simp only [Option.some.injEq, Prod.mk.injEq] at h
    obtain ⟨_, rfl⟩ := h
    simp
  | case3 k a b c d r' u hu ih => have := ih h; simp only [List.length_cons]; omega
  | case4 => simp at h
  | case5 k e r' hne c hc ih => have := ih h; simp only [List.length_cons]; omega
  | case6 => simp at h
  | case7 => simp at h
  | case8 k c r' _ _ _ hc ih => have := ih h; simp only [List.length_cons]; omega

theorem length_readString? {cs r : List Char} {t : Option String}
    (h : readString? cs = some (t, r)) : r.length < cs.length :=
  length_readStringFrom h

/-! ### writing -/

def hexDigit (n : Nat) : Char := Nat.digitChar n

/-- a character as it stands in a literal -/
def escapeChar (c : Char) : List Char :=
  if c = '"' then ['\\', '"']
  else if c = '\\' then ['\\', '\\']
  else if c = '\x08' then ['\\', 'b']
  else if c = '\x0c' then ['\\', 'f']
  else if c = '\n' then ['\\', 'n']
  else if c = '\r' then ['\\', 'r']
  else if c = '\t' then ['\\', 't']
  else if isControl c then ['\\', 'u', '0', '0', hexDigit (c.toNat / 16), hexDigit (c.toNat % 16)]
  else [c]

/-- a literal that names no text: one high surrogate -/
def brokenLiteral : List Char := ['\\', 'u', 'd', '8', '0', '0']

/-- a text, or the lack of one, as a literal -/
def stringLiteral (text : Option String) : List Char :=
  '"' :: ((match text with
    | some s => s.toList.flatMap escapeChar
    | none => brokenLiteral) ++ ['"'])

end SoqlForm.Json
