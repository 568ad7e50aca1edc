import SoqlForm.Json.Token

/-!
# JSON: the text of a value

* `Json.tokens`   the tokens of a value;
* `Json.text`     the compact text of a value: its tokens without space;
* `Json.read?`    the value of a document.

A document is read by a machine with a stack of open arrays and objects, one token at a time, so
the depth of a document is bounded by nothing but its length.
-/

namespace SoqlForm.Json

/-! ### writing -/

mutual

def tokens : Json → List Token
  | .scalar s => [.scalar s]
  | .array items => .openArray :: itemTokens items
  | .object members => .openObject :: memberTokens members

/-- the items of an array up to its end -/
def itemTokens : List Json → List Token
  | [] => [.closeArray]
  | v :: vs => tokens v ++ moreItemTokens vs

/-- further items, each behind a comma -/
def moreItemTokens : List Json → List Token
  | [] => [.closeArray]
  | v :: vs => .comma :: (tokens v ++ moreItemTokens vs)

/-- the members of an object up to its end -/
def memberTokens : List (Option String × Json) → List Token
  | [] => [.closeObject]
  | (name, v) :: ms => .scalar (.string name) :: .colon :: (tokens v ++ moreMemberTokens ms)

/-- further members, each behind a comma -/
def moreMemberTokens : List (Option String × Json) → List Token
  | [] => [.closeObject]
  | (name, v) :: ms =>
    .comma :: .scalar (.string name) :: .colon :: (tokens v ++ moreMemberTokens ms)

end

def text (v : Json) : String := String.ofList (v.tokens.flatMap Token.text)

/-! ### reading -/

/-- an open array or object around the value that is read, last part first -/
inductive Frame where
  | item (done : List Json)
  | member (done : List Member) (name : Option String)

/-- what the tokens so far leave to be read -/
inductive Reader where
  /-- a value is due; an array without items may end instead -/
  | value (stack : List Frame)
  /-- a name is due; an object without members may end instead -/
  | name (done : List Member) (stack : List Frame)
  /-- the colon behind a name is due -/
  | colon (name : Option String) (done : List Member) (stack : List Frame)
  /-- an array with items goes on or ends -/
  | items (done : List Json) (stack : List Frame)
  /-- an object with members goes on or ends -/
  | members (done : List Member) (stack : List Frame)
  | complete (v : Json)

namespace Reader

def supply (v : Json) : List Frame → Reader
  | [] => .complete v
  | .item done :: stack => .items (v :: done) stack
  | .member done key :: stack => .members ((key, v) :: done) stack

/-- the reader behind one more token, unless the token is out of place -/
def step : Reader → Token → Option Reader
  | .value stack, .scalar s => some (supply (.scalar s) stack)
  | .value stack, .openArray => some (.value (.item [] :: stack))
  | .value stack, .openObject => some (.name [] stack)
  | .value (.item [] :: stack), .closeArray => some (supply (.array []) stack)
  | .name done stack, .scalar (.string key) => some (.colon key done stack)
  | .name [] stack, .closeObject => some (supply (.object []) stack)
  | .colon key done stack, .colon => some (.value (.member done key :: stack))
  | .items done stack, .comma => some (.value (.item done :: stack))
  | .items done stack, .closeArray => some (supply (.array done.reverse) stack)
  | .members done stack, .comma => some (.name done stack)
  | .members done stack, .closeObject => some (supply (.object done.reverse) stack)
  | _, _ => none

def run (r : Reader) : List Token → Option Reader
  | [] => some r
  | t :: ts =>
    match r.step t with
    | some r => r.run ts
    | none => none

def value? : Reader → Option Json
  | .complete v => some v
  | _ => none

end Reader

def read? (s : String) : Option Json := do
  let ts ← Token.list? s.toList
  let r ← (Reader.value []).run ts
  r.value?

end SoqlForm.Json
