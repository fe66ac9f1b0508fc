import RequestBinding.Text.Utf8

/-!
# Request targets

The target of a request in origin form (`/path?query`), absolute form (`http://host/path?query`),
asterisk form, or authority form (`host:port`). Only the path and the query are kept; a fragment is
dropped.

## Main definitions

* `Uri` - path and query of a target
* `Uri.ofString?` - reads a target
-/

namespace RequestBinding

/-- The path and the query of a request target. -/
structure Uri where
  path : String
  query : Option String
  deriving Repr, DecidableEq

namespace Uri

/-! ## Path and query -/

/-- The characters that a path may hold as they are. -/
def isPathChar (c : Char) : Bool :=
  let n := c.toNat
  0x20 < n && n != 0x7F && c != '<' && c != '>' && n != 0x60 && c != '?' && c != '#'

/-- The characters that a query may hold as they are. -/
def isQueryChar (c : Char) : Bool :=
  let n := c.toNat
  0x20 < n && n != 0x7F && c != '<' && c != '>' && c != '"' && c != '#'

/-- Splits a path from what follows it, a query or a fragment. The empty path is the root. -/
def pathAndQuery? (cs : List Char) : Option Uri :=
  let path := cs.takeWhile isPathChar
  let whole := fun query =>
    some ⟨if path.isEmpty then "/" else String.ofList path, query⟩
  match cs.dropWhile isPathChar with
  | [] => whole none
  | '#' :: _ => whole none
  | '?' :: rest =>
    match rest.dropWhile isQueryChar with
    | [] => whole (some (String.ofList rest))
    | '#' :: _ => whole (some (String.ofList (rest.takeWhile isQueryChar)))
    | _ => none
  | _ => none

/-! ## Authority -/

/-- The characters of an authority other than the percent sign, and those that end it. -/
def isUriChar (c : Char) : Bool :=
  c.isAlphanum || ['!', '#', '$', '&', '\x27', '(', ')', '*', '+', ',', '-', '.', '/', ':', ';', '=',
    '?', '@', '[', ']', '_', '~'].contains c

/-- What has been seen of an authority. -/
structure AuthorityScan where
  colons : Nat
  opened : Bool
  closed : Bool
  percent : Bool
  /-- The last character was an at sign. -/
  endsAt : Bool
  deriving Repr

/-- Takes one character of an authority into account; none if it cannot stand there. User
information before an at sign and an address in brackets have colons and percent signs of their
own, so these count anew after them. -/
def AuthorityScan.step (s : AuthorityScan) (c : Char) : Option AuthorityScan :=
  let s := { s with endsAt := false }
  if c == ':' then if 8 ≤ s.colons then none else some { s with colons := s.colons + 1 }
  else if c == '[' then if s.percent || s.opened then none else some { s with opened := true }
  else if c == ']' then
    if !s.opened || s.closed then none
    else some { s with closed := true, colons := 0, percent := false }
  else if c == '@' then some { s with colons := 0, percent := false, endsAt := true }
  else if c == '%' then some { s with percent := true }
  else if isUriChar c then some s
  else none

/-- Whether a text is an authority: user information, a host, and at most one port. -/
def isAuthority (cs : List Char) : Bool :=
  match cs.foldlM AuthorityScan.step ⟨0, false, false, false, false⟩ with
  | none => false
  | some s => s.opened == s.closed && s.colons ≤ 1 && !s.endsAt && !s.percent

/-- The characters that end an authority. -/
def endsAuthority (c : Char) : Bool := c == '/' || c == '?' || c == '#'

/-! ## Scheme -/

/-- The characters of schemes. -/
def isSchemeChar (c : Char) : Bool := c.isAlphanum || c == '+' || c == '-' || c == '.' || c == '~'

/-- What follows the scheme and `://`; none if there is no scheme. -/
def afterScheme? (cs : List Char) : Option (List Char) :=
  match cs.dropWhile isSchemeChar with
  | ':' :: '/' :: '/' :: rest => some rest
  | _ => none

/-- The greatest number of bytes in a target. -/
def maxBytes : Nat := 65534

/-- The greatest number of characters in a scheme. -/
def maxScheme : Nat := 64

/-- Reads a target; none if it has none of the four forms. -/
def ofChars? (cs : List Char) : Option Uri :=
  if maxBytes < (Utf8.encodeChars cs).length then none
  else
    match cs with
    | [] => none
    | ['*'] => some ⟨"*", none⟩
    | '/' :: _ => pathAndQuery? cs
    | cs =>
      match afterScheme? cs with
      | none => if isAuthority cs && !cs.any endsAuthority then some ⟨"", none⟩ else none
      | some rest =>
        let host := rest.takeWhile fun c => !endsAuthority c
        if maxScheme < (cs.takeWhile isSchemeChar).length then none
        else if host.isEmpty || !isAuthority host then none
        else pathAndQuery? (rest.dropWhile fun c => !endsAuthority c)

/-- Reads a target given as a text. -/
def ofString? (s : String) : Option Uri := ofChars? s.toList

end Uri

end RequestBinding
