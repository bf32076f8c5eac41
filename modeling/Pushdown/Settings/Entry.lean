import Pushdown.Json.Reader

/-! # Entries of a settings document

What a document may give for a name: a truth value, an array of labels, or an empty table.
Blanks, line breaks, comments and the four kinds of strings are read as in TOML. A label is
a string, or an inline table with the label as its one key. No other TOML value is a
setting, so none is read.
-/

namespace Pushdown

namespace Settings

/-- What a document gives for a name. -/
inductive Entry where
  | flag (value : Bool)
  | labels (labels : List String)
  /-- An empty table. -/
  | table
  deriving DecidableEq

namespace Entry

/-- Whether an entry holds nothing. -/
def isEmpty : Entry → Bool
  | .labels [] | .table => true
  | _ => false

/-- A reader takes what it reads from the front of a text and leaves the rest. -/
abbrev Reader (α : Type) := List Char → Option (α × List Char)

/-- Whether a character may not stand in a document; tabs and line breaks aside. -/
def isControl (char : Char) : Bool :=
  (char < ' ' && char != '\t') || char == '\x7f'

/-- What is left after blanks in a line. -/
def skipBlanks (text : List Char) : List Char :=
  text.dropWhile fun char => char == ' ' || char == '\t'

mutual

/-- What is left after blanks, line breaks and comments. -/
def skipBreaks : List Char → Option (List Char)
  | [] => some []
  | '\r' :: '\n' :: rest => skipBreaks rest
  | char :: rest =>
      if char == ' ' || char == '\t' || char == '\n' then skipBreaks rest
      else if char == '#' then skipComment rest
      else some (char :: rest)

/-- What is left after a comment and all that `skipBreaks` passes. -/
def skipComment : List Char → Option (List Char)
  | [] => some []
  | '\r' :: '\n' :: rest => skipBreaks rest
  | char :: rest =>
      if char == '\n' then skipBreaks rest
      else if isControl char then none
      else skipComment rest

end

/-- Whether nothing but a comment is left in the line. -/
def atLineEnd (text : List Char) : Bool :=
  match skipBlanks text with
  | [] | '\n' :: _ | '\r' :: '\n' :: _ | '#' :: _ => true
  | _ => false

/-- What is left after blanks and line breaks. -/
def skipLines : List Char → List Char
  | [] => []
  | '\r' :: '\n' :: rest => skipLines rest
  | char :: rest =>
      if char == ' ' || char == '\t' || char == '\n' then skipLines rest else char :: rest

/-- What is left of a multi-line string after an escaped line break. -/
def skipFold (text : List Char) : Option (List Char) :=
  match skipBlanks text with
  | '\n' :: rest | '\r' :: '\n' :: rest => some (skipLines rest)
  | _ => none

/-- The character of an escape by code point, after the backslash. -/
def codePoint? : Reader Char
  | 'x' :: a :: b :: rest => point [a, b] rest
  | 'u' :: a :: b :: c :: d :: rest => point [a, b, c, d] rest
  | 'U' :: a :: b :: c :: d :: e :: f :: g :: h :: rest => point [a, b, c, d, e, f, g, h] rest
  | _ => none
where
  /-- The character that hexadecimal digits name. -/
  point (digits : List Char) (rest : List Char) : Option (Char × List Char) :=
    ((Json.hexNumber? digits).bind Json.charOf?).map fun char => (char, rest)

/-- The rest of a string between single or triple quotes, under a bound on its length.
Labels hold neither quotes nor line breaks, so a string with either is none. -/
def quoted? (quote : Char) (triple : Bool) : Nat → List Char → Reader String
  | 0, _, _ => none
  | bound + 1, read, text =>
      match text with
      | [] => none
      | char :: rest =>
          if char == quote then
            if !triple then some (String.ofList read.reverse, rest)
            else if rest.take 2 == [quote, quote] then
              some (String.ofList read.reverse, rest.drop 2)
            else none
          else if char == '\\' && quote == '"' then
            match codePoint? rest with
            | some (char, rest) => quoted? quote triple bound (char :: read) rest
            | none =>
                if triple then (skipFold rest).bind (quoted? quote triple bound read) else none
          else if isControl char then none
          else quoted? quote triple bound (char :: read) rest

/-- A string in one line. -/
def string? : Reader String
  | '"' :: rest => quoted? '"' false (rest.length + 1) [] rest
  | '\'' :: rest => quoted? '\'' false (rest.length + 1) [] rest
  | _ => none

/-- A string of any kind; a line break right after triple quotes is left out. -/
def anyString? : Reader String
  | '"' :: '"' :: '"' :: rest => quoted? '"' true (rest.length + 1) [] (skipBreak rest)
  | '\'' :: '\'' :: '\'' :: rest => quoted? '\'' true (rest.length + 1) [] (skipBreak rest)
  | text => string? text
where
  /-- What is left after one line break. -/
  skipBreak : List Char → List Char
    | '\n' :: rest => rest
    | '\r' :: '\n' :: rest => rest
    | text => text

/-- Whether a character may stand in a bare name. -/
def isBare (char : Char) : Bool :=
  char.isAlphanum || char == '_' || char == '-'

/-- A name, bare or quoted. -/
def name? (text : List Char) : Option (String × List Char) :=
  let bare := text.takeWhile isBare
  if bare.isEmpty then string? text else some (String.ofList bare, text.dropWhile isBare)

/-- The equals sign between a name and its value, with blanks around it. -/
def equals? (text : List Char) : Option (List Char) :=
  match skipBlanks text with
  | '=' :: rest => some (skipBlanks rest)
  | _ => none

/-- The equals sign in an inline table, where lines may end around it. -/
def inlineEquals? (text : List Char) : Option (List Char) := do
  match ← skipBreaks text with
  | '=' :: rest => skipBreaks rest
  | _ => none

/-- An empty table. -/
def emptyTable? : List Char → Option (List Char)
  | '\x7b' :: rest => do
      match ← skipBreaks rest with
      | '\x7d' :: rest => some rest
      | _ => none
  | _ => none

/-- An empty array. -/
def emptyArray? : List Char → Option (List Char)
  | '[' :: rest => do
      match ← skipBreaks rest with
      | ']' :: rest => some rest
      | _ => none
  | _ => none

/-- The end of an inline table, which may have a comma before it. -/
def tableEnd? (text : List Char) : Option (List Char) := do
  match ← skipBreaks text with
  | '\x7d' :: rest => some rest
  | ',' :: rest =>
      match ← skipBreaks rest with
      | '\x7d' :: rest => some rest
      | _ => none
  | _ => none

/-- A label: a string, or a table whose one key holds nothing. -/
def label? : Reader String
  | '\x7b' :: rest => do
      let (label, rest) ← name? (← skipBreaks rest)
      let value ← inlineEquals? rest
      let rest ← tableEnd? (← emptyTable? value <|> emptyArray? value)
      return (label, rest)
  | text => anyString? text

/-- The labels of an array up to its closing bracket. -/
def labels? : Nat → Reader (List String)
  | 0, _ => none
  | bound + 1, text => do
      match ← skipBreaks text with
      | ']' :: rest => some ([], rest)
      | text =>
          let (label, rest) ← label? text
          match ← skipBreaks rest with
          | ',' :: rest =>
              let (more, rest) ← labels? bound rest
              return (label :: more, rest)
          | ']' :: rest => return ([label], rest)
          | _ => none

/-- What is given for a name. -/
def value? : Reader Entry
  | 't' :: 'r' :: 'u' :: 'e' :: rest => some (.flag true, rest)
  | 'f' :: 'a' :: 'l' :: 's' :: 'e' :: rest => some (.flag false, rest)
  | '[' :: rest => (labels? (rest.length + 1) rest).map fun (found, rest) => (.labels found, rest)
  | text => (emptyTable? text).map fun rest => (.table, rest)

end Entry

end Settings

end Pushdown
