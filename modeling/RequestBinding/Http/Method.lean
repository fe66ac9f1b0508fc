/-!
# Methods and headers

Request methods are tokens, compared by case. Header names are tokens, compared without case, and
header values are free of control characters other than the tab.

## Main definitions

* `Method` - a request method
* `isToken` - the tokens
* `Header.isName`, `Header.isValue`, `Header.visible?` - parts of header fields
-/

namespace RequestBinding

/-- The characters of tokens. -/
def isTokenChar (c : Char) : Bool :=
  c.isAlphanum ||
    ['!', '#', '$', '%', '&', '\x27', '*', '+', '-', '.', '^', '_', '\x60', '|', '~'].contains c

/-- A token is not empty and has token characters alone. -/
def isToken (s : String) : Bool := !s.isEmpty && s.toList.all isTokenChar

/-- A request method, such as GET or POST. -/
structure Method where
  name : String
  deriving Repr, DecidableEq

namespace Method

def get : Method := ⟨"GET"⟩
def post : Method := ⟨"POST"⟩

/-- The method with a name, which has to be a token. -/
def ofName? (s : String) : Option Method := if isToken s then some ⟨s⟩ else none

end Method

namespace Header

/-- The names of header fields. -/
def isName (s : String) : Bool := isToken s

/-- The values of header fields: no control characters but the tab. -/
def isValue (s : String) : Bool :=
  s.toList.all fun c => c == '\t' || (32 ≤ c.toNat && c.toNat != 127)

/-- A value as text, if it has visible ASCII characters, spaces and tabs alone. -/
def visible? (s : String) : Option String :=
  if s.toList.all fun c => c == '\t' || (32 ≤ c.toNat && c.toNat < 127) then some s else none

/-- The text without regard to the case of ASCII letters. -/
def lower (s : String) : String := String.ofList (s.toList.map Char.toLower)

end Header

end RequestBinding
