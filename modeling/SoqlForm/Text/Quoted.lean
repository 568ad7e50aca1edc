/-!
# Text: quoted literals

A text literal of the query language stands between single quotes.  With escaping on, a backslash
and a quote of the text are each preceded by a backslash; with escaping off the text is put in as
it is.
-/

namespace SoqlForm.Text

/-- a character as it is written in an escaped literal -/
def escapeChar (c : Char) : List Char :=
  if c = '\\' then ['\\', '\\'] else if c = '\'' then ['\\', '\''] else [c]

/-- the inside of a text literal -/
def literalBody (escapes : Bool) (cs : List Char) : List Char :=
  if escapes then cs.flatMap escapeChar else cs

/-- a text literal: its body between single quotes -/
def quoted (escapes : Bool) (cs : List Char) : List Char :=
  '\'' :: (literalBody escapes cs ++ ['\''])

theorem literalBody_on (cs : List Char) : literalBody true cs = cs.flatMap escapeChar := rfl

end SoqlForm.Text
