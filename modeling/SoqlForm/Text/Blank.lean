/-!
# Text: white space, trimming, pieces and words

Text is worked on as a list of characters.

* `isBlank`   the 25 characters with the Unicode property White_Space;
* `trim`      the text without the blanks at its two ends;
* `pieces p`  the parts between the characters that satisfy `p`: always one more than there are
              such characters, empty parts included;
* `words`     the maximal runs of characters that are not blank.
-/

namespace SoqlForm.Text

/-! ### blanks -/

/-- the characters with the Unicode property White_Space -/
def blanks : List Char :=
  ['\t', '\n', '\x0b', '\x0c', '\r', ' ', '\u0085', '\u00a0', '\u1680', '\u2000', '\u2001',
   '\u2002', '\u2003', '\u2004', '\u2005', '\u2006', '\u2007', '\u2008', '\u2009', '\u200a',
   '\u2028', '\u2029', '\u202f', '\u205f', '\u3000']

def isBlank (c : Char) : Bool := blanks.contains c

theorem isBlank_iff {c : Char} : isBlank c = true ↔ c ∈ blanks := by
  simp [isBlank]

/-! ### trimming -/

def trimStart (cs : List Char) : List Char := cs.dropWhile isBlank

def trimEnd (cs : List Char) : List Char := (cs.reverse.dropWhile isBlank).reverse

/-- drops the blanks at both ends -/
def trim (cs : List Char) : List Char := trimEnd (trimStart cs)

theorem trim_nil : trim [] = [] := rfl

/-! ### pieces -/

/-- the parts of a text between the characters that satisfy `p` -/
def pieces (p : Char → Bool) : List Char → List (List Char)
  | [] => [[]]
  | c :: cs => if p c then [] :: pieces p cs else (pieces p cs).modifyHead (c :: ·)

variable {p : Char → Bool}

theorem pieces_nil : pieces p [] = [[]] := rfl

theorem pieces_cons_of_sep {c : Char} (h : p c = true) (cs : List Char) :
    pieces p (c :: cs) = [] :: pieces p cs := by
  simp [pieces, h]

theorem pieces_cons_of_not_sep {c : Char} (h : p c = false) (cs : List Char) :
    pieces p (c :: cs) = (pieces p cs).modifyHead (c :: ·) := by
  simp [pieces, h]

/-- the maximal runs of characters that are not blank -/
def words (cs : List Char) : List (List Char) := (pieces isBlank cs).filter (!·.isEmpty)

theorem words_nil : words [] = [] := rfl

end SoqlForm.Text
