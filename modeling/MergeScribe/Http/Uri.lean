import MergeScribe.Http.Percent

/-!
# Places on a server

The path of a request must hold only certain characters, and so must the base that all paths are
under. Queries are written in the way that forms are.
-/

namespace MergeScribe

namespace Uri

/-- Whether a character may stand in a path. Besides visible characters other than a few that have
to be escaped, all beyond ASCII are let through. -/
def isPathChar (c : Char) : Bool :=
  c.toNat ≥ 0x80 || (c.toNat > 0x20 && c.toNat < 0x7F && !("<>`".toList.contains c))

/-- Whether a character may stand in a query. -/
def isQueryChar (c : Char) : Bool :=
  c.toNat ≥ 0x80 || (c.toNat > 0x20 && c.toNat < 0x7F && !("\"<>".toList.contains c))

/-- The longest place that can be asked for, in bytes. -/
def maxLength : Nat := 65534

/-- The place that a path with a query names, if it is well-formed. A fragment is cut off. -/
def ofRoute? (route : Text) : Option Text :=
  let kept := route.takeWhile (· != '#')
  let path := kept.takeWhile (· != '?')
  let query := (kept.dropWhile (· != '?')).drop 1
  if (toBytes route).length ≤ maxLength && path.all isPathChar && query.all isQueryChar then
    some kept
  else none
where
  toBytes (t : Text) : Bytes := Text.toBytes t

/-! ## 1. Bases -/

/-- What is known of an authority, character by character. -/
structure Authority where
  colons : Nat
  opened : Bool
  closed : Bool
  percent : Bool

/-- Whether a character may stand in an authority. A percent sign is looked at separately. -/
def isAuthorityChar (c : Char) : Bool :=
  c.isAlphanum || "!$&'()*+,-.:;=@[]_~".toList.contains c

/-- Take in one character of an authority. Before an at sign there are a name and a password, in
which colons and escapes are free. -/
def Authority.add (a : Authority) (c : Char) : Option Authority :=
  if c = ':' then if a.colons ≥ 8 then none else some { a with colons := a.colons + 1 }
  else if c = '[' then if a.percent || a.opened then none else some { a with opened := true }
  else if c = ']' then
    if !a.opened || a.closed then none
    else some { a with closed := true, colons := 0, percent := false }
  else if c = '@' then some { a with colons := 0, percent := false }
  else if c = '%' then some { a with percent := true }
  else if isAuthorityChar c then some a
  else none

/-- Whether a text names a server: brackets come in a pair, there is at most one port, nothing is
escaped in the host, and there is a host. -/
def isAuthority (t : Text) : Bool :=
  !t.isEmpty && t.getLast? != some '@' &&
    (t.foldlM Authority.add ⟨0, false, false, false⟩).any fun a =>
      a.opened == a.closed && a.colons ≤ 1 && !a.percent

/-- Whether what follows the scheme of a base is well-formed: a server, and then a path. -/
def isBase (t : Text) : Bool :=
  let isEnd (c : Char) : Bool := c == '/' || c == '?' || c == '#'
  isAuthority (t.takeWhile fun c => !isEnd c) &&
    (ofRoute? (t.dropWhile fun c => !isEnd c)).isSome

/-! ## 2. Forms -/

/-- A byte in a form. -/
def formByte (b : UInt8) : Text :=
  let c := Char.ofNat b.toNat
  if c.isAlphanum || "*-._".toList.contains c then [c]
  else if c = ' ' then ['+']
  else Percent.ofByte b

/-- A text in a form. -/
def formText (t : Text) : Text :=
  (Text.toBytes t).flatMap formByte

/-- A query of names and values. -/
def formQuery (pairs : List (Text × Text)) : Text :=
  Text.joined "&" (pairs.map fun pair => formText pair.1 ++ '=' :: formText pair.2)

/-- A path with a query put to it. -/
def withQuery (path : Text) (pairs : List (Text × Text)) : Text :=
  path ++ (if path.contains '?' then '&' else '?') :: formQuery pairs

end Uri

end MergeScribe
