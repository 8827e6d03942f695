import MergeScribe.Http.Host

/-!
# Addresses on the web

An address is read leniently and written in one way: scheme and host in lower case, no default port,
no dots in the path, and escapes where they are needed. `Url.normalize?` is that one way.
-/

namespace MergeScribe

/-- An address, its parts written in their one way. -/
structure Url where
  scheme : Text
  /-- The user, the host and the port, if the address names a server. -/
  server : Option Text
  path : Text
  query : Option Text
  fragment : Option Text

namespace Url

/-! ## 1. Schemes -/

/-- What an address with some scheme looks like: it names a server of the web, a file, or something
else. -/
inductive Kind where
  | web (port : Nat)
  | file
  | other
  deriving DecidableEq

/-- What addresses with a scheme look like. -/
def Kind.ofScheme (scheme : Text) : Kind :=
  if scheme = "https" ∨ scheme = "wss" then .web 443
  else if scheme = "http" ∨ scheme = "ws" then .web 80
  else if scheme = "ftp" then .web 21
  else if scheme = "file" then .file
  else .other

/-- The port that need not be written. -/
def Kind.defaultPort? : Kind → Option Nat
  | .web port => some port
  | _ => none

/-- A character between the parts of a path. -/
def Kind.isSlash (kind : Kind) (c : Char) : Bool :=
  c == '/' || (c == '\\' && kind != .other)

/-- The scheme of an address in lower case, and what follows its colon. -/
def scheme? (t : Text) : Option (Text × Text) :=
  let isSchemeChar (c : Char) : Bool := c.isAlphanum || c == '+' || c == '-' || c == '.'
  match t.takeWhile isSchemeChar, t.dropWhile isSchemeChar with
  | first :: more, ':' :: rest =>
    if first.isAlpha then some (Text.lowerAscii (first :: more), rest) else none
  | _, _ => none

/-! ## 2. Servers -/

/-- What is escaped in a path. -/
def pathReserved : Text := " \"#<>?`\x7b\x7d"

/-- What is escaped in a query. -/
def queryReserved (kind : Kind) : Text :=
  if kind = .other then " \"#<>" else " \"#<>'"

/-- What is escaped in a fragment. -/
def fragmentReserved : Text := " \"<>`"

/-- What is escaped in a name or a password. -/
def userReserved : Text := pathReserved ++ "/:;=@[\\]^|"

/-- A name and a password with an at sign, or nothing if both are empty. -/
def user (t : Text) : Text :=
  let name := Percent.escape userReserved (t.takeWhile (· != ':'))
  let password := Percent.escape userReserved ((t.dropWhile (· != ':')).drop 1)
  if name.isEmpty ∧ password.isEmpty then []
  else name ++ (if password.isEmpty then [] else ':' :: password) ++ ['@']

/-- What stands before the last at sign, if there is one, and what follows. -/
def splitUser (t : Text) : Option Text × Text :=
  match (Text.pieces '@' t).reverse with
  | server :: last :: before => (some (Text.joined "@" (last :: before).reverse), server)
  | _ => (none, t)

/-- The host in a text and what follows it. A colon in brackets belongs to the host. -/
def splitHost (t : Text) : Text × Text :=
  let inBrackets := if t.head? = some '[' then t.takeWhile (· != ']') else []
  let rest := t.drop inBrackets.length
  (inBrackets ++ rest.takeWhile (· != ':'), rest.dropWhile (· != ':'))

/-- The port after a host, if one is written that is not the default one, and what follows it. -/
def port? (standard : Option Nat) : Text → Option (Text × Text)
  | ':' :: rest =>
    let digits := rest.takeWhile Char.isDigit
    let n := Text.ofDigits 10 (digits.filterMap Text.digitValue?)
    let after := rest.dropWhile Char.isDigit
    if 0x10000 ≤ n ∨ (after.head?.any (· != '\\')) then none
    else if digits.isEmpty ∨ some n = standard then some ([], after)
    else some (':' :: Text.ofNat n, after)
  | rest => some ([], rest)

/-- The server that a text names, and what follows it in the text. Without a host there is neither a
user nor a port. -/
def server? (kind : Kind) (t : Text) : Option (Text × Text) := do
  let (user?, rest) := splitUser t
  let (name, rest) := splitHost rest
  let host ← if kind = .other then Host.ofPlain? name else Host.ofName? name
  let (port, after) ← port? kind.defaultPort? rest
  let user := user (user?.getD [])
  if name.isEmpty ∧ (!user.isEmpty ∨ !rest.isEmpty) then none
  else return (user ++ host.write ++ port, after)

/-! ## 3. Paths -/

/-- Whether a part of a path stands for the same place: one dot. -/
def isHere (part : Text) : Bool :=
  let part := Text.lowerAscii part
  part == ".".toList || part == "%2e".toList

/-- Whether a part of a path stands for the place above: two dots. -/
def isAbove (part : Text) : Bool :=
  let part := Text.lowerAscii part
  part == "..".toList || part == ".%2e".toList || part == "%2e.".toList || part == "%2e%2e".toList

/-- Whether a part of a path names a drive, above which there is nothing. -/
def isDrive : Text → Bool
  | letter :: mark :: rest =>
    letter.isAlpha && (mark == ':' || mark == '|') && (rest.isEmpty || rest.head? == some '\\')
  | _ => false

/-- The parts without the last one, unless that is a drive. The last one comes first. -/
def above : List Text → List Text
  | [] => []
  | last :: before => if isDrive last then last :: before else before

/-- A part of a path as it is written. The drive that a file is on is marked by a colon. -/
def writePart (kind : Kind) (before : List Text) (part : Text) : Text :=
  if kind = .file ∧ before.isEmpty ∧ part.length = 2 ∧ isDrive part then part.take 1 ++ [':']
  else Percent.escape pathReserved part

/-- The parts of a path without dots. The parts that come before are given last one first. -/
def walk (kind : Kind) (before : List Text) : List Text → List Text
  | [] => before.reverse
  | [last] =>
    if isAbove last then ([] :: above before).reverse
    else if isHere last then ([] :: before).reverse
    else (writePart kind before last :: before).reverse
  | part :: more =>
    if isAbove part then walk kind (above before) more
    else if isHere part then walk kind before more
    else walk kind (writePart kind before part :: before) more

/-- The parts of a path with slashes of one kind. -/
def partsOf (kind : Kind) (t : Text) : List Text :=
  walk kind [] (Text.pieces '/' (t.map fun c => if kind.isSlash c then '/' else c))

/-- The text after the slash that it may start with. -/
def withoutSlash (kind : Kind) (t : Text) : Text :=
  if t.head?.any kind.isSlash then t.tail else t

/-- A path of parts. -/
def rooted (parts : List Text) : Text :=
  '/' :: Text.joined "/" parts

/-- The path of a file, which starts with a single slash. -/
def filePath (parts : List Text) : Text :=
  '/' :: (rooted parts).dropWhile (· == '/')

/-! ## 4. Addresses -/

/-- The server and the path of a file. A file on a drive is on no server. -/
def file? (t : Text) : Option (Text × Text) :=
  let isSlash := Kind.file.isSlash
  match t with
  | a :: b :: rest =>
    if isSlash a ∧ isSlash b then
      let name := rest.takeWhile fun c => !isSlash c
      if name.isEmpty ∨ name.length = 2 ∧ isDrive name then
        some ([], filePath (partsOf .file rest))
      else
        (Host.ofName? name).map fun host =>
          let after := rest.drop name.length
          if host = .domain "localhost" then ([], filePath (partsOf .file after))
          else
            let parts := partsOf .file (withoutSlash .file after)
            (if parts.head?.any isDrive then [] else host.write, filePath parts)
    else some ([], filePath (partsOf .file (withoutSlash .file t)))
  | t => some ([], filePath (partsOf .file (withoutSlash .file t)))

/-- The server and the path of an address, from what stands between its scheme and its query. An
address that names no server may have a path without parts, which stays as it is. -/
def place? (kind : Kind) (t : Text) : Option (Option Text × Text) :=
  let isEnd (c : Char) : Bool := kind.isSlash c
  match kind, t with
  | .file, t => (file? t).map fun (server, path) => (some server, path)
  | .web _, t =>
    let t := t.dropWhile isEnd
    (server? kind (t.takeWhile fun c => !isEnd c)).map fun (server, after) =>
      let rest := after ++ t.dropWhile fun c => !isEnd c
      (some server, rooted (partsOf kind (withoutSlash kind rest)))
  | .other, '/' :: '/' :: t =>
    (server? kind (t.takeWhile fun c => !isEnd c)).map fun (server, after) =>
      let rest := after ++ t.dropWhile fun c => !isEnd c
      (some server, if rest.isEmpty then [] else rooted (partsOf kind (withoutSlash kind rest)))
  | .other, '/' :: t => some (none, rooted (partsOf kind t))
  | .other, t => some (none, Percent.escape [] t)

/-- Whether a text has an at sign in the place of a server, and then goes on with something else. -/
def lacksServer (t : Text) : Bool :=
  match Text.after? "//@" t with
  | some (c :: _) => c == '/' || c == '?' || c == '#'
  | _ => false

/-- The text without control characters and spaces at its ends, and without line ends and tabs. -/
def clean (t : Text) : Text :=
  let isEdge (c : Char) : Bool := c.toNat ≤ 0x20
  let t := ((t.dropWhile isEdge).reverse.dropWhile isEdge).reverse
  t.filter fun c => c != '\n' && c != '\r' && c != '\t'

/-- Read an address. -/
def parse? (t : Text) : Option Url := do
  let (scheme, rest) ← scheme? (clean t)
  if lacksServer rest then none
  let kind := Kind.ofScheme scheme
  let isMark (c : Char) : Bool := c == '?' || c == '#'
  let (server, path) ← place? kind (rest.takeWhile fun c => !isMark c)
  let tail := rest.dropWhile fun c => !isMark c
  let query := (Text.after? "?" tail).map fun query =>
    Percent.escape (queryReserved kind) (query.takeWhile (· != '#'))
  let fragment := (Text.after? "#" (tail.dropWhile (· != '#'))).map
    (Percent.escape fragmentReserved)
  return ⟨scheme, server, path, query, fragment⟩

/-- Write an address. Where no server is named, a path must not look as if it started with one. -/
def write (u : Url) : Text :=
  let server : Text :=
    match u.server with
    | some server => "//".toList ++ server
    | none => if Text.startsWith u.path "//" then "/.".toList else []
  let part (mark : Char) : Option Text → Text
    | some t => mark :: t
    | none => []
  u.scheme ++ ":".toList ++ server ++ u.path ++ part '?' u.query ++ part '#' u.fragment

/-- The one way to write an address, if it is one. -/
def normalize? (t : Text) : Option Text :=
  (parse? t).map write

end Url

end MergeScribe
