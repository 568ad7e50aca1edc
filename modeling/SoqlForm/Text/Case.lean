/-!
# Text: letter case

Tokens are compared without regard to the case of ASCII letters; `upper` and `lower` change those
and nothing else.  `hintCase` is the form in which the words of a column name are looked for.

* `upper`, `lower`   ASCII letters only;
* `hintCase`         the lower case as far as ASCII letters go: besides `A`..`Z` only the Kelvin
                     sign and the dotted capital I have a lower case with an ASCII letter in it;
* `occurs w cs`      whether `w` stands somewhere in `cs`.
-/

namespace SoqlForm.Text

def upper (cs : List Char) : List Char := cs.map Char.toUpper

def lower (cs : List Char) : List Char := cs.map Char.toLower

/-- the lower case of one character, where it holds an ASCII letter; otherwise the character -/
def hintCaseChar (c : Char) : List Char :=
  if c = '\u212a' then ['k']
  else if c = '\u0130' then ['i', '\u0307']
  else [c.toLower]

/-- lower case for the search of ASCII words: no other character's lower case has an ASCII letter -/
def hintCase (cs : List Char) : List Char := cs.flatMap hintCaseChar

/-- whether `w` stands somewhere in the text -/
def occurs (w : List Char) : List Char → Bool
  | [] => w.isEmpty
  | c :: cs => w.isPrefixOf (c :: cs) || occurs w cs

end SoqlForm.Text
