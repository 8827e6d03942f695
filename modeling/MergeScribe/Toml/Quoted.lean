import MergeScribe.Toml.Basic

/-!
# Strings in TOML

A string is basic, with escapes, or literal, without; and either may run over several lines when it
is opened with three quotes.
-/

namespace MergeScribe

namespace Toml

/-- A control character that must be escaped. A tab need not be. -/
def isControl (c : Char) : Bool :=
  (c.toNat < 0x20 && c != '\t') || c.toNat == 0x7F

/-- The number that characters are in base 16. -/
def hex? (digits : Text) : Option Nat :=
  (digits.mapM Text.hexValue?).map (Text.ofDigits 16)

/-- The character of a code, if there is one. -/
def char? (code : Nat) : Option Char :=
  if code < 0xD800 ∨ 0xE000 ≤ code ∧ code < 0x110000 then some (Char.ofNat code) else none

/-- The character that the text after a backslash stands for, and what follows. -/
def escape? : Text → Option (Char × Text)
  | 'u' :: rest =>
    if rest.length < 4 then none
    else ((hex? (rest.take 4)).bind char?).map fun c => (c, rest.drop 4)
  | 'U' :: rest =>
    if rest.length < 8 then none
    else ((hex? (rest.take 8)).bind char?).map fun c => (c, rest.drop 8)
  | 'x' :: rest =>
    if rest.length < 2 then none
    else ((hex? (rest.take 2)).bind char?).map fun c => (c, rest.drop 2)
  | 'b' :: rest => some ('\x08', rest)
  | 't' :: rest => some ('\t', rest)
  | 'n' :: rest => some ('\n', rest)
  | 'f' :: rest => some ('\x0c', rest)
  | 'r' :: rest => some ('\r', rest)
  | 'e' :: rest => some ('\x1b', rest)
  | '"' :: rest => some ('"', rest)
  | '\\' :: rest => some ('\\', rest)
  | _ => none

/-- A basic string up to its closing quote, and what follows. -/
def basic? : Nat → Text → Option (Text × Text)
  | 0, _ => none
  | fuel + 1, t =>
    match t with
    | '"' :: rest => some ([], rest)
    | '\\' :: rest =>
      (escape? rest).bind fun (c, rest) =>
        (basic? fuel rest).map fun (more, rest) => (c :: more, rest)
    | c :: rest =>
      if isControl c then none
      else (basic? fuel rest).map fun (more, rest) => (c :: more, rest)
    | [] => none

/-- A literal string up to its closing quote, and what follows. -/
def literal? : Text → Option (Text × Text)
  | '\'' :: rest => some ([], rest)
  | c :: rest =>
    if isControl c then none
    else (literal? rest).map fun (more, rest) => (c :: more, rest)
  | [] => none

/-- The end of a string of several lines: three quotes, before which up to two more may belong to
the string. -/
def closing? (quote : Char) (t : Text) : Option (Text × Text) :=
  let quotes := t.takeWhile (· == quote)
  if quotes.length < 3 then none
  else
    let count := min quotes.length 5
    some (List.replicate (count - 3) quote, t.drop count)

/-- A line end at the start of a text, and what follows. -/
def lineEnd? : Text → Option (Text × Text)
  | '\n' :: rest => some (['\n'], rest)
  | '\r' :: '\n' :: rest => some (['\r', '\n'], rest)
  | _ => none

/-- What follows blanks and line ends. -/
def skipBlankLines : Text → Text
  | ' ' :: rest => skipBlankLines rest
  | '\t' :: rest => skipBlankLines rest
  | '\n' :: rest => skipBlankLines rest
  | '\r' :: '\n' :: rest => skipBlankLines rest
  | t => t

/-- What follows a backslash at the end of a line: the next text that is not blank. -/
def continued? (t : Text) : Option Text :=
  (lineEnd? (t.dropWhile fun c => c == ' ' || c == '\t')).map fun (_, rest) => skipBlankLines rest

/-- A basic string of several lines up to its end, and what follows. -/
def basicLines? : Nat → Text → Option (Text × Text)
  | 0, _ => none
  | fuel + 1, t =>
    match closing? '"' t with
    | some found => some found
    | none =>
      match lineEnd? t with
      | some (line, rest) =>
        (basicLines? fuel rest).map fun (more, rest) => (line ++ more, rest)
      | none =>
        match t with
        | '\\' :: rest =>
          match continued? rest with
          | some rest => basicLines? fuel rest
          | none =>
            (escape? rest).bind fun (c, rest) =>
              (basicLines? fuel rest).map fun (more, rest) => (c :: more, rest)
        | c :: rest =>
          if isControl c then none
          else (basicLines? fuel rest).map fun (more, rest) => (c :: more, rest)
        | [] => none

/-- A literal string of several lines up to its end, and what follows. -/
def literalLines? : Nat → Text → Option (Text × Text)
  | 0, _ => none
  | fuel + 1, t =>
    match closing? '\'' t with
    | some found => some found
    | none =>
      match lineEnd? t with
      | some (line, rest) =>
        (literalLines? fuel rest).map fun (more, rest) => (line ++ more, rest)
      | none =>
        match t with
        | c :: rest =>
          if isControl c then none
          else (literalLines? fuel rest).map fun (more, rest) => (c :: more, rest)
        | [] => none

/-- The text after the line end that it may start with. -/
def skipLineEnd (t : Text) : Text :=
  ((lineEnd? t).map Prod.snd).getD t

/-- A string in one line, and what follows. -/
def oneLine? : Text → Option (Text × Text)
  | '"' :: rest => basic? (rest.length + 1) rest
  | '\'' :: rest => literal? rest
  | _ => none

/-- A string of any kind, and what follows. -/
def string? (t : Text) : Option (Text × Text) :=
  match t with
  | '"' :: '"' :: '"' :: rest => basicLines? (rest.length + 1) (skipLineEnd rest)
  | '\'' :: '\'' :: '\'' :: rest => literalLines? (rest.length + 1) (skipLineEnd rest)
  | t => oneLine? t

end Toml

end MergeScribe
