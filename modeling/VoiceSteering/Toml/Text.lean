/-
# Blanks, keys and strings of TOML

Blanks are spaces and tabs, a line ends with a line feed or a carriage return and a line feed, and
comments run to the end of their line.  Keys are bare words or one-line strings, joined by dots.
-/
import VoiceSteering.Text.Numeral
import VoiceSteering.Toml.Value

namespace VoiceSteering.Toml

def isBlank (c : Char) : Bool := c == ' ' || c == '\t'

def skipBlanks (cs : List Char) : List Char := cs.dropWhile isBlank

/-- Whether a character may stand in a comment or in a literal string: no control character but
the tab. -/
def isTextual (c : Char) : Bool := c == '\t' || (0x20 ≤ c.toNat && c.toNat ≠ 0x7F)

/-- What follows the end of a line; the end of the document ends a line, too. -/
def lineEnd? : List Char → Option (List Char)
  | [] => some []
  | '\n' :: rest => some rest
  | '\r' :: '\n' :: rest => some rest
  | _ => none

/-- The characters without a comment at their front. -/
def skipComment : List Char → List Char
  | '#' :: rest => rest.dropWhile isTextual
  | cs => cs

/-- What follows the rest of a line that holds nothing more than blanks and a comment. -/
def lineRest? (cs : List Char) : Option (List Char) := lineEnd? (skipComment (skipBlanks cs))

/-- The characters without the blanks, comments and ends of lines at their front.  A comment has to
be followed by the end of its line. -/
def skipLines : (fuel : Nat) → List Char → Option (List Char)
  | 0, cs => some cs
  | fuel + 1, cs =>
    match skipBlanks cs with
    | '\n' :: rest => skipLines fuel rest
    | '\r' :: '\n' :: rest => skipLines fuel rest
    | '#' :: rest =>
      match rest.dropWhile isTextual with
      | '\n' :: rest => skipLines fuel rest
      | '\r' :: '\n' :: rest => skipLines fuel rest
      | _ => none
    | rest => some rest

/-! ## Strings -/

/-- The character of a code point, if it is one. -/
def charOf? (n : Nat) : Option Char :=
  if h : n.isValidChar then some (Char.ofNatAux n h) else none

/-- The character written by a number of hexadecimal digits. -/
def codePoint? (width : Nat) (cs : List Char) : Found Char :=
  let ds := cs.take width
  if ds.length = width then
    match Text.digitsValue? 16 ds with
    | some n => (charOf? n).map fun c => (c, cs.drop width)
    | none => none
  else none

/-- The character that an escape stands for, after its backslash. -/
def escape? : List Char → Found Char
  | 'b' :: rest => some ('\x08', rest)
  | 'f' :: rest => some ('\x0c', rest)
  | 'n' :: rest => some ('\n', rest)
  | 'r' :: rest => some ('\r', rest)
  | 't' :: rest => some ('\t', rest)
  | '"' :: rest => some ('"', rest)
  | '\\' :: rest => some ('\\', rest)
  | 'u' :: rest => codePoint? 4 rest
  | 'U' :: rest => codePoint? 8 rest
  | _ => none

/-- Puts a character in front of what was found. -/
def Found.cons (c : Char) (found : Found (List Char)) : Found (List Char) :=
  found.map fun (cs, rest) => (c :: cs, rest)

/-- A one-line string with escapes, up to its closing quote. -/
def basicBody : (fuel : Nat) → List Char → Found (List Char)
  | 0, _ => none
  | fuel + 1, cs =>
    match cs with
    | '"' :: rest => some ([], rest)
    | '\\' :: rest =>
      match escape? rest with
      | some (c, rest) => (basicBody fuel rest).cons c
      | none => none
    | c :: rest => if isTextual c then (basicBody fuel rest).cons c else none
    | [] => none

/-- A one-line string without escapes, up to its closing quote. -/
def literalBody : List Char → Found (List Char)
  | '\x27' :: rest => some ([], rest)
  | c :: rest => if isTextual c then (literalBody rest).cons c else none
  | [] => none

/-- Whether only blanks stand before the end of the line, which is then not at the end of the
document. -/
def blankToLineEnd (cs : List Char) : Bool :=
  match skipBlanks cs with
  | '\n' :: _ => true
  | '\r' :: '\n' :: _ => true
  | _ => false

/-- The characters without the blanks and ends of lines at their front. -/
def skipBlankLines : List Char → List Char
  | '\r' :: '\n' :: rest => skipBlankLines rest
  | c :: rest => if isBlank c || c == '\n' then skipBlankLines rest else c :: rest
  | [] => []

/-- A string over several lines with escapes, up to its closing quotes.  Up to two quotes may stand
anywhere in it, also right before the closing three, and a backslash at the end of a line takes the
blanks and lines after it away. -/
def longBasicBody : (fuel : Nat) → List Char → Found (List Char)
  | 0, _ => none
  | fuel + 1, cs =>
    match cs with
    | '"' :: '"' :: '"' :: '"' :: '"' :: rest => some (['"', '"'], rest)
    | '"' :: '"' :: '"' :: '"' :: rest => some (['"'], rest)
    | '"' :: '"' :: '"' :: rest => some ([], rest)
    | '\\' :: rest =>
      if blankToLineEnd rest then longBasicBody fuel (skipBlankLines rest)
      else
        match escape? rest with
        | some (c, rest) => (longBasicBody fuel rest).cons c
        | none => none
    | '\n' :: rest => (longBasicBody fuel rest).cons '\n'
    | '\r' :: '\n' :: rest => (longBasicBody fuel rest).cons '\n'
    | c :: rest => if isTextual c then (longBasicBody fuel rest).cons c else none
    | [] => none

/-- A string over several lines without escapes, up to its closing quotes. -/
def longLiteralBody : List Char → Found (List Char)
  | '\x27' :: '\x27' :: '\x27' :: '\x27' :: '\x27' :: rest => some (['\x27', '\x27'], rest)
  | '\x27' :: '\x27' :: '\x27' :: '\x27' :: rest => some (['\x27'], rest)
  | '\x27' :: '\x27' :: '\x27' :: rest => some ([], rest)
  | '\n' :: rest => (longLiteralBody rest).cons '\n'
  | '\r' :: '\n' :: rest => (longLiteralBody rest).cons '\n'
  | c :: rest => if isTextual c then (longLiteralBody rest).cons c else none
  | [] => none

/-- The characters without the end of a line right at their front. -/
def skipFirstLineEnd : List Char → List Char
  | '\n' :: rest => rest
  | '\r' :: '\n' :: rest => rest
  | cs => cs

/-- A string of one line. -/
def shortString? (cs : List Char) : Found String :=
  match cs with
  | '"' :: rest => (basicBody (rest.length + 1) rest).map fun (s, rest) => (String.ofList s, rest)
  | '\x27' :: rest => (literalBody rest).map fun (s, rest) => (String.ofList s, rest)
  | _ => none

/-- A string of any kind.  A line end right after three opening quotes does not belong to it. -/
def string? (cs : List Char) : Found String :=
  match cs with
  | '"' :: '"' :: '"' :: rest =>
    (longBasicBody (rest.length + 1) (skipFirstLineEnd rest)).map fun (s, rest) =>
      (String.ofList s, rest)
  | '\x27' :: '\x27' :: '\x27' :: rest =>
    (longLiteralBody (skipFirstLineEnd rest)).map fun (s, rest) => (String.ofList s, rest)
  | cs => shortString? cs

/-! ## Keys -/

/-- Whether a character may stand in a bare key. -/
def isKeyChar (c : Char) : Bool := c.isAlphanum || c == '-' || c == '_'

/-- One part of a key. -/
def keyPart? (cs : List Char) : Found String :=
  match cs with
  | '"' :: _ => shortString? cs
  | '\x27' :: _ => shortString? cs
  | _ =>
    match cs.span isKeyChar with
    | ([], _) => none
    | (name, rest) => some (String.ofList name, rest)

/-- The parts of a key with blanks around them. -/
def keyParts? : (fuel : Nat) → List Char → Found (List String)
  | 0, _ => none
  | fuel + 1, cs =>
    match keyPart? (skipBlanks cs) with
    | none => none
    | some (name, rest) =>
      match skipBlanks rest with
      | '.' :: rest => (keyParts? fuel rest).map fun (names, rest) => (name :: names, rest)
      | rest => some ([name], rest)

/-- How deep values may be nested and how many parts a key may have, both exclusively. -/
def depthLimit : Nat := 80

/-- A key: the names on its path and the last name. -/
def key? (cs : List Char) : Found (List String × String) :=
  match keyParts? depthLimit cs with
  | some (names, rest) =>
    if names.length < depthLimit then
      names.getLast?.map fun last => ((names.dropLast, last), rest)
    else none
  | none => none

end VoiceSteering.Toml
