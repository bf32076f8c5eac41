import Pushdown.Binary64.Layout
import Pushdown.Json

/-! # Writing JSON

The compact text of a value. Quotes, backslashes and control characters are escaped;
every other character stands for itself.
-/

namespace Pushdown

namespace Json

/-- A number in hexadecimal digits, padded with zeros to a width. -/
def hexText (width : Nat) (number : Nat) : String :=
  let digits := Nat.toDigits 16 number
  String.ofList (List.replicate (width - digits.length) '0' ++ digits)

/-- A character inside a string. -/
def escape (char : Char) : String :=
  if char = '"' then "\\\""
  else if char = '\\' then "\\\\"
  else if char < ' ' then "\\u" ++ hexText 4 char.toNat
  else char.toString

/-- A string with its quotes. -/
def quote (text : String) : String :=
  text.foldl (fun written char => written ++ escape char) "\"" ++ "\""

mutual

/-- The text of a value. -/
def toText : Json → String
  | .null => "null"
  | .bool value => if value then "true" else "false"
  | .whole value => toString value
  | .binary value => Layout.tagged.text value
  | .negativeZero => "-" ++ Layout.tagged.text .zero
  | .text value => quote value
  | .array items => "[" ++ ",".intercalate (itemTexts items) ++ "]"
  | .object fields => "\x7b" ++ ",".intercalate (fieldTexts fields) ++ "\x7d"

/-- The texts of the items of an array. -/
def itemTexts : List Json → List String
  | [] => []
  | item :: rest => toText item :: itemTexts rest

/-- The texts of the fields of an object. -/
def fieldTexts : List (String × Json) → List String
  | [] => []
  | (name, value) :: rest => (quote name ++ ":" ++ toText value) :: fieldTexts rest

end

end Json

end Pushdown
