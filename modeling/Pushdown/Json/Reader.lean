import Pushdown.Binary64.Scaled
import Pushdown.Json

/-! # Reading JSON

The grammar of JSON over a list of characters. Containers are read under a bound on the
number of characters, which every nested container and every further item uses up.
-/

namespace Pushdown

namespace Json

/-- The value of a hexadecimal digit. -/
def hexDigit? (digit : Char) : Option Nat :=
  if digit.isDigit then some (digit.toNat - '0'.toNat)
  else if 'a' ≤ digit ∧ digit ≤ 'f' then some (digit.toNat - 'a'.toNat + 10)
  else if 'A' ≤ digit ∧ digit ≤ 'F' then some (digit.toNat - 'A'.toNat + 10)
  else none

/-- The number that hexadecimal digits write. -/
def hexNumber? (digits : List Char) : Option Nat :=
  digits.foldlM (fun number digit => (hexDigit? digit).map (16 * number + ·)) 0

/-- The character of a code point, if there is one. -/
def charOf? (code : Nat) : Option Char :=
  if valid : code.isValidChar then some (Char.ofNatAux code valid) else none

/-- The number that decimal digits write. -/
def decimalNumber (digits : List Char) : Nat :=
  digits.foldl (fun number digit => 10 * number + (digit.toNat - '0'.toNat)) 0

namespace Reader

/-- What is left after blanks. -/
def skipBlanks (input : List Char) : List Char :=
  input.dropWhile fun char => char == ' ' || char == '\t' || char == '\n' || char == '\r'

/-- The character that a simple escape stands for. -/
def simpleEscape? : Char → Option Char
  | '"' => some '"'
  | '\\' => some '\\'
  | '/' => some '/'
  | 'b' => some '\x08'
  | 'f' => some '\x0c'
  | 'n' => some '\n'
  | 'r' => some '\r'
  | 't' => some '\t'
  | _ => none

/-- The rest of a string after its opening quote, and what follows it. Code points beyond
the basic plane are escaped as two surrogates. -/
def string? (read : List Char) : List Char → Option (String × List Char)
  | '"' :: rest => some (String.ofList read.reverse, rest)
  | '\\' :: 'u' :: a :: b :: c :: d :: '\\' :: 'u' :: e :: f :: g :: h :: rest => do
      let high ← hexNumber? [a, b, c, d]
      if 0xd800 ≤ high ∧ high < 0xdc00 then
        let low ← hexNumber? [e, f, g, h]
        if 0xdc00 ≤ low ∧ low < 0xe000 then
          let char ← charOf? (0x10000 + (high - 0xd800) * 0x400 + (low - 0xdc00))
          string? (char :: read) rest
        else none
      else
        let char ← charOf? high
        string? (char :: read) ('\\' :: 'u' :: e :: f :: g :: h :: rest)
  | '\\' :: 'u' :: a :: b :: c :: d :: rest => do
      let char ← (hexNumber? [a, b, c, d]).bind charOf?
      string? (char :: read) rest
  | '\\' :: escape :: rest => do
      let char ← simpleEscape? escape
      string? (char :: read) rest
  | char :: rest => if char < ' ' then none else string? (char :: read) rest
  | [] => none
termination_by input => input.length

/-- The digits of a number without leading zeros. -/
def integral? (input : List Char) : Option (List Char × List Char) :=
  match input with
  | '0' :: rest => some (['0'], rest)
  | char :: rest =>
      if char.isDigit then
        some (char :: rest.takeWhile Char.isDigit, rest.dropWhile Char.isDigit)
      else none
  | [] => none

/-- The digits after a point, if there is a point. -/
def fraction? : List Char → Option (Option (List Char) × List Char)
  | '.' :: rest =>
      let digits := rest.takeWhile Char.isDigit
      if digits.isEmpty then none else some (some digits, rest.dropWhile Char.isDigit)
  | input => some (none, input)

/-- An exponent, if there is one. -/
def exponent? : List Char → Option (Option Int × List Char)
  | mark :: rest =>
      if mark == 'e' || mark == 'E' then
        let (minus, unsigned) :=
          match rest with
          | '-' :: rest => (true, rest)
          | '+' :: rest => (false, rest)
          | rest => (false, rest)
        let digits := unsigned.takeWhile Char.isDigit
        if digits.isEmpty then none
        else
          let size : Int := decimalNumber digits
          some (some (if minus then -size else size), unsigned.dropWhile Char.isDigit)
      else some (none, mark :: rest)
  | [] => some (none, [])

/-- The number that digits write after those read before, as far as it fits in 64 bits,
and the digits from the first that does not fit. -/
def significand (read : Nat) : List Char → Nat × List Char
  | [] => (read, [])
  | digit :: rest =>
      let next := decimalNumber [digit] + 10 * read
      if next < UInt64.size then significand next rest else (read, digit :: rest)

/-- A number. The negative zero is not whole, and neither is a number beyond 64 bits. The
digits of other numbers fill a significand of 64 bits; the rest of them only count. -/
def number? (input : List Char) : Option (Json × List Char) := do
  let (minus, unsigned) :=
    match input with
    | '-' :: rest => (true, rest)
    | input => (false, input)
  let (digits, afterDigits) ← integral? unsigned
  let (decimals, afterDecimals) ← fraction? afterDigits
  let (exponent, rest) ← exponent? afterDecimals
  let signed (size : Nat) : Int := if minus then -(size : Int) else size
  let (size, beyond) := significand 0 digits
  if decimals.isNone && exponent.isNone && beyond.isEmpty && isWhole (signed size) &&
      !(minus && size == 0) then
    return (.whole (signed size), rest)
  else
    let decimals := decimals.getD []
    let (size, ignored) := significand size decimals
    let places : Int := decimals.length - ignored.length
    let number ← Binary64.ofScaled? (signed size) (exponent.getD 0 + beyond.length - places)
    return (if minus && number == .zero then .negativeZero else .binary number, rest)

mutual

/-- A value, and what follows it. -/
def value? : Nat → List Char → Option (Json × List Char)
  | 0, _ => none
  | bound + 1, input =>
      match skipBlanks input with
      | 'n' :: 'u' :: 'l' :: 'l' :: rest => some (.null, rest)
      | 't' :: 'r' :: 'u' :: 'e' :: rest => some (.bool true, rest)
      | 'f' :: 'a' :: 'l' :: 's' :: 'e' :: rest => some (.bool false, rest)
      | '"' :: rest => (string? [] rest).map fun (read, rest) => (.text read, rest)
      | '[' :: rest =>
          match skipBlanks rest with
          | ']' :: rest => some (.array [], rest)
          | rest => (items? bound rest).map fun (items, rest) => (.array items, rest)
      | '\x7b' :: rest =>
          match skipBlanks rest with
          | '\x7d' :: rest => some (.object [], rest)
          | rest => (fields? bound [] rest).map fun (fields, rest) => (.object fields, rest)
      | input => number? input

/-- The items of an array up to its closing bracket. -/
def items? : Nat → List Char → Option (List Json × List Char)
  | 0, _ => none
  | bound + 1, input => do
      let (item, rest) ← value? bound input
      match skipBlanks rest with
      | ',' :: rest =>
          let (items, rest) ← items? bound rest
          return (item :: items, rest)
      | ']' :: rest => return ([item], rest)
      | _ => none

/-- The fields of an object up to its closing brace, added to those read before. -/
def fields? : Nat → List (String × Json) → List Char →
    Option (List (String × Json) × List Char)
  | 0, _, _ => none
  | bound + 1, read, input =>
      match skipBlanks input with
      | '"' :: rest => do
          let (name, rest) ← string? [] rest
          match skipBlanks rest with
          | ':' :: rest =>
              let (value, rest) ← value? bound rest
              let read := insertField name value read
              match skipBlanks rest with
              | ',' :: rest => fields? bound read rest
              | '\x7d' :: rest => return (read, rest)
              | _ => none
          | _ => none
      | _ => none

end

end Reader

/-- The deepest nesting of containers that is read. -/
def deepest : Nat :=
  127

/-- The value that a text writes. Texts that nest too deep are refused. -/
def ofText? (text : String) : Option Json :=
  match Reader.value? (text.length + 1) text.toList with
  | some (value, rest) =>
      if (Reader.skipBlanks rest).isEmpty && value.depth ≤ deepest then some value else none
  | none => none

end Json

end Pushdown
