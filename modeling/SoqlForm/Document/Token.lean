import SoqlForm.Comparison
import SoqlForm.Json.Text
import SoqlForm.Style
import SoqlForm.Verdict

/-!
# Documents of enumerated values

A value of an enumeration is written as its token.  It is read from its token, or from an object
whose one member has the token as its name and null as its value.
-/

namespace SoqlForm

namespace Json

/-- a value of an enumeration, by the reader of its tokens -/
def enumerated? {α : Type} (ofToken? : String → Option α) (v : Json) : Option α :=
  v.token?.bind ofToken?

end Json

def Field.Kind.toJson (k : Field.Kind) : Json := .string k.token
def Field.Kind.ofJson? : Json → Option Field.Kind := Json.enumerated? ofToken?

theorem Field.Kind.ofJson?_toJson (k : Field.Kind) : ofJson? k.toJson = some k :=
  ofToken?_token k

def Comparison.toJson (c : Comparison) : Json := .string c.token
def Comparison.ofJson? : Json → Option Comparison := Json.enumerated? ofToken?

def Connective.toJson (c : Connective) : Json := .string c.token
def Connective.ofJson? : Json → Option Connective := Json.enumerated? ofToken?

def Direction.toJson (d : Direction) : Json := .string d.token
def Direction.ofJson? : Json → Option Direction := Json.enumerated? ofToken?

def Grade.toJson (g : Grade) : Json := .string g.token
def Grade.ofJson? : Json → Option Grade := Json.enumerated? ofToken?

def Style.Typing.toJson (t : Style.Typing) : Json := .string t.token
def Style.Typing.ofJson? : Json → Option Style.Typing := Json.enumerated? ofToken?

theorem Style.Typing.ofJson?_toJson (t : Style.Typing) : ofJson? t.toJson = some t :=
  ofToken?_token t

end SoqlForm
