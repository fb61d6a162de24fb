import RecordFilter.Json.Basic
import RecordFilter.Number.Shortest
import RecordFilter.Text.Blank

/-!
# Compact JSON text

JSON values written without white space, the members of an object in their order.  Only what
JSON requires is escaped: the quote, the backslash and the control characters below the space.

A number in double precision is written with the fewest digits that read back.  Its decimal
exponent decides the notation: from -5 to 15 the number is written in places with at least one
digit after the point, outside of that range with an exponent.
-/

namespace RecordFilter

namespace Decimal

/-- The digits with a point after `places` of them, and a zero on each side that has none. -/
def inPlaces (d : Decimal) : List Char :=
  let digits := d.digitChars
  let zeros (n : Nat) : List Char := List.replicate n '0'
  if 0 ≤ d.power then digits ++ zeros d.power.toNat ++ ['.', '0']
  else
    let fraction := d.power.natAbs
    if fraction < digits.length then
      digits.take (digits.length - fraction) ++ '.' :: digits.drop (digits.length - fraction)
    else '0' :: '.' :: zeros (fraction - digits.length) ++ digits

/-- The digits with the point after the first one, and the exponent with its sign. -/
def withExponent (d : Decimal) : List Char :=
  let exponent := d.leadingExponent
  let sign := if exponent < 0 then '-' else '+'
  let mantissa :=
    match d.digitChars with
    | first :: second :: rest => first :: '.' :: second :: rest
    | digits => digits
  mantissa ++ 'e' :: sign :: Nat.toDigits 10 exponent.natAbs

end Decimal

namespace JsonNumber

/-- The text of a magnitude in double precision. -/
def realChars (x : Binary64) : List Char :=
  let d := x.shortest
  if -5 ≤ d.leadingExponent ∧ d.leadingExponent ≤ 15 then d.inPlaces else d.withExponent

/-- The text of an integer. -/
def integerChars (n : Int) : List Char :=
  if n < 0 then '-' :: Nat.toDigits 10 n.natAbs else Nat.toDigits 10 n.natAbs

/-- The text of a number. -/
def chars : JsonNumber → List Char
  | .integer n => integerChars n
  | .real x => if x.negative then '-' :: realChars x else realChars x

/-- The text of a number. -/
def text (n : JsonNumber) : String :=
  String.ofList n.chars

end JsonNumber

namespace Json

/-- The hexadecimal digits of a control character, four of them. -/
def fourHexDigits (n : Nat) : List Char :=
  let digits := Nat.toDigits 16 n
  List.replicate (4 - digits.length) '0' ++ digits

/-- One character inside a JSON string. -/
def escapeChar (c : Char) : List Char :=
  if c = '"' then ['\\', '"']
  else if c = '\\' then ['\\', '\\']
  else if c = '\n' then ['\\', 'n']
  else if c = '\r' then ['\\', 'r']
  else if c = '\t' then ['\\', 't']
  else if c = '\x08' then ['\\', 'b']
  else if c = '\x0c' then ['\\', 'f']
  else if c.toNat < 0x20 then '\\' :: 'u' :: fourHexDigits c.toNat
  else [c]

/-- A JSON string. -/
def stringChars (s : String) : List Char :=
  '"' :: (s.toList.flatMap escapeChar ++ ['"'])

mutual

/-- The characters of the compact text of a value. -/
def chars : Json → List Char
  | .null => ['n', 'u', 'l', 'l']
  | .bool true => ['t', 'r', 'u', 'e']
  | .bool false => ['f', 'a', 'l', 's', 'e']
  | .number n => n.chars
  | .string s => stringChars s
  | .array items => '[' :: itemsChars items
  | .object members => '\x7b' :: membersChars members

/-- The items of an array with the commas between them and the closing bracket. -/
def itemsChars : List Json → List Char
  | [] => [']']
  | item :: rest => chars item ++ moreItemsChars rest

/-- What follows an item of an array. -/
def moreItemsChars : List Json → List Char
  | [] => [']']
  | item :: rest => ',' :: (chars item ++ moreItemsChars rest)

/-- The members of an object with the commas between them and the closing brace. -/
def membersChars : List (String × Json) → List Char
  | [] => ['\x7d']
  | (key, value) :: rest => stringChars key ++ ':' :: (chars value ++ moreMembersChars rest)

/-- What follows a member of an object. -/
def moreMembersChars : List (String × Json) → List Char
  | [] => ['\x7d']
  | (key, value) :: rest =>
    ',' :: (stringChars key ++ ':' :: (chars value ++ moreMembersChars rest))

end

/-- The compact text of a value. -/
def text (json : Json) : String :=
  String.ofList json.chars

end Json

end RecordFilter
