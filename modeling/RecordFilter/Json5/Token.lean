import RecordFilter.Json.Token
import RecordFilter.Text.Letters

/-!
# The tokens of JSON5 text

JSON5 is JSON with comments, names without quotes, strings in single quotes, more numbers and
more white space.  A word is a name without quotes; it is a key before a colon and a literal such
as `true` elsewhere.  Only a key may be written with escapes.
-/

namespace RecordFilter.Json5

/-- A number as JSON5 writes it. -/
inductive Numeral where
  /-- An integer in decimal digits. -/
  | integer (value : Int)
  /-- A number without sign in hexadecimal digits. -/
  | hexadecimal (value : Nat)
  /-- A number with a point or an exponent: `digits * 10 ^ power`, with its sign. -/
  | decimal (negative : Bool) (digits : Nat) (power : Int)
  /-- A word for a number after a sign. -/
  | signed (negative : Bool) (word : String)
  deriving Repr

/-- A token of JSON5 text. -/
inductive Token where
  | openArray
  | closeArray
  | openObject
  | closeObject
  | comma
  | colon
  /-- A word, and whether it is written without escapes. -/
  | word (name : String) (plain : Bool)
  | string (value : String)
  | number (value : Numeral)
  deriving Repr

namespace Token

open Json.Token (StringPart)

/-- The characters that end a line. -/
def isLineEnd (c : Char) : Bool :=
  c = '\n' || c = '\r' || c.toNat = 0x2028 || c.toNat = 0x2029

/-- The characters that may stand between tokens. -/
def isSpace (c : Char) : Bool :=
  let n := c.toNat
  isLineEnd c || n == 0x9 || n == 0xB || n == 0xC || n == 0x20 || n == 0xA0 || n == 0xFEFF ||
    n == 0x1680 || (0x2000 ≤ n && n ≤ 0x200A) || n == 0x202F || n == 0x205F || n == 0x3000

/-- What follows a comment that ends with its line. -/
def afterLine : List Char → List Char
  | [] => []
  | c :: rest => if isLineEnd c then c :: rest else afterLine rest

/-- What follows a comment that ends with a star and a slash. -/
def afterBlock? : List Char → Option (List Char)
  | [] => none
  | '*' :: '/' :: rest => some rest
  | _ :: rest => afterBlock? rest

/-- Whether a character may begin a word. -/
def beginsWord (c : Char) : Bool :=
  c = '$' || c = '_' || Text.isLetter c

/-- Whether a character may stand inside a word. -/
def continuesWord (c : Char) : Bool :=
  beginsWord c || Text.isNameMark c || c.toNat = 0x200C || c.toNat = 0x200D

/-- The character of a surrogate pair.  The bit of the first plane is joined to the bits of the
halves and not added, so that a pair for an even plane stands for the character one plane
below. -/
def ofSurrogates (high low : Nat) : Char :=
  Char.ofNat ((high - 0xD800) * 0x400 ||| (low - 0xDC00 + 0x10000))

/-- The text of some parts. -/
def textOf? (parts : List StringPart) : Option String :=
  (StringPart.join? ofSurrogates parts).map String.ofList

/-- Reads a word, or what is left of it: its parts, and what follows it. -/
def wordBody? : List Char → Option (List StringPart × List Char)
  | [] => some ([], [])
  | '\\' :: 'u' :: a :: b :: c :: d :: rest =>
    match Json.Token.hexWord? a b c d with
    | none => none
    | some unit => Json.Token.before (.ofUnit unit) (wordBody? rest)
  | '\\' :: _ => none
  | c :: rest =>
    if continuesWord c then Json.Token.before (.char c) (wordBody? rest) else some ([], c :: rest)

/-- The character that a backslash and a character stand for. -/
def escaped? (c : Char) : Option Char :=
  if c = 'b' then some '\x08'
  else if c = 'f' then some '\x0c'
  else if c = 'n' then some '\n'
  else if c = 'r' then some '\r'
  else if c = 't' then some '\t'
  else if c = 'v' then some '\x0b'
  else if c = '0' then some '\x00'
  else if c.isDigit || c = 'x' || c = 'u' then none
  else some c

/-- Reads a string after its opening quote: its parts, and what follows the closing quote.  A
backslash before the end of a line leaves both out. -/
def stringBody? (quote : Char) : List Char → Option (List StringPart × List Char)
  | [] => none
  | '\\' :: '\r' :: '\n' :: rest => stringBody? quote rest
  | '\\' :: 'x' :: a :: b :: rest =>
    match Json.Token.hexWord? '0' '0' a b with
    | none => none
    | some n => Json.Token.before (.char (Char.ofNat n)) (stringBody? quote rest)
  | '\\' :: 'u' :: a :: b :: c :: d :: rest =>
    match Json.Token.hexWord? a b c d with
    | none => none
    | some unit => Json.Token.before (.ofUnit unit) (stringBody? quote rest)
  | '\\' :: c :: rest =>
    if isLineEnd c then stringBody? quote rest
    else
      match escaped? c with
      | none => none
      | some e => Json.Token.before (.char e) (stringBody? quote rest)
  | c :: rest =>
    if c = quote then some ([], rest)
    else if c = '\\' || isLineEnd c then none
    else Json.Token.before (.char c) (stringBody? quote rest)

/-- Reads a string after its opening quote. -/
def string? (quote : Char) (cs : List Char) : Option (Token × List Char) :=
  match stringBody? quote cs with
  | none => none
  | some (parts, rest) => (textOf? parts).map fun text => (.string text, rest)

/-- The leading hexadecimal digits of a text. -/
def hexDigits (cs : List Char) : List Nat :=
  (cs.takeWhile fun c => (Json.Token.hexDigit? c).isSome).filterMap Json.Token.hexDigit?

/-- What follows the leading hexadecimal digits of a text. -/
def afterHexDigits (cs : List Char) : List Char :=
  cs.dropWhile fun c => (Json.Token.hexDigit? c).isSome

/-- Reads the exponent of a number, if there is one; an `e` without digits is none. -/
def exponent (cs : List Char) : Option Int × List Char :=
  match Json.Token.exponent? cs with
  | some read => read
  | none => (none, cs)

/-- Reads a number in decimal digits after its sign.  The point may come first or last, but a
digit must be there, and only zero starts with zero. -/
def decimal? (negative : Bool) (cs : List Char) : Option (Numeral × List Char) :=
  let whole := Json.Token.digits cs
  let afterWhole := Json.Token.afterDigits cs
  match afterWhole with
  | '.' :: rest =>
    let fraction := Json.Token.digits rest
    if (whole.isEmpty && fraction.isEmpty) || (1 < whole.length && whole.head? = some 0) then none
    else
      let (power, rest) := exponent (Json.Token.afterDigits rest)
      let digits := RecordFilter.Numeral.natOf 0 (whole ++ fraction)
      some (.decimal negative digits (power.getD 0 - fraction.length), rest)
  | _ =>
    if Json.Token.areWholeDigits whole then
      let digits := RecordFilter.Numeral.natOf 0 whole
      match exponent afterWhole with
      | (some power, rest) => some (.decimal negative digits power, rest)
      | (none, rest) => some (.integer (if negative then -(digits : Int) else digits), rest)
    else none

/-- Reads a number after its sign: in digits, or by a word. -/
def signedNumber? (negative : Bool) (cs : List Char) : Option (Numeral × List Char) :=
  match decimal? negative cs with
  | some read => some read
  | none =>
    match cs.takeWhile continuesWord with
    | [] => none
    | name => some (.signed negative (String.ofList name), cs.dropWhile continuesWord)

/-- Reads a number in hexadecimal digits after the letter that announces them. -/
def hexadecimal? (cs : List Char) : Option (Numeral × List Char) :=
  if (hexDigits cs).isEmpty then none
  else some (.hexadecimal ((hexDigits cs).foldl (fun n d => n * 16 + d) 0), afterHexDigits cs)

/-- Reads a number without sign. -/
def number? (cs : List Char) : Option (Numeral × List Char) :=
  match cs with
  | '0' :: 'x' :: rest => hexadecimal? rest
  | '0' :: 'X' :: rest => hexadecimal? rest
  | _ => decimal? false cs

/-- Whether a text begins with a word that is written without escapes. -/
def isPlainWord (cs : List Char) : Bool :=
  (cs.dropWhile continuesWord).head? != some '\\'

/-- Reads a word from its first character on. -/
def word? (cs : List Char) : Option (Token × List Char) :=
  match cs with
  | [] => none
  | c :: _ =>
    if beginsWord c || c = '\\' then
      match wordBody? cs with
      | none => none
      | some (parts, rest) =>
        (textOf? parts).map fun name => (.word name (isPlainWord cs), rest)
    else none

/-- Reads one token, one comment or one character of white space. -/
def next? (cs : List Char) : Option (Option Token × List Char) :=
  match cs with
  | [] => none
  | '[' :: rest => some (some .openArray, rest)
  | ']' :: rest => some (some .closeArray, rest)
  | '\x7b' :: rest => some (some .openObject, rest)
  | '\x7d' :: rest => some (some .closeObject, rest)
  | ',' :: rest => some (some .comma, rest)
  | ':' :: rest => some (some .colon, rest)
  | '/' :: '/' :: rest => some (none, afterLine rest)
  | '/' :: '*' :: rest => (afterBlock? rest).map fun rest => (none, rest)
  | '"' :: rest =>
    (string? '"' rest).map fun read => (some read.1, read.2)
  | '\'' :: rest =>
    (string? '\'' rest).map fun read => (some read.1, read.2)
  | '+' :: rest => (signedNumber? false rest).map fun read => (some (.number read.1), read.2)
  | '-' :: rest => (signedNumber? true rest).map fun read => (some (.number read.1), read.2)
  | c :: rest =>
    if isSpace c then some (none, rest)
    else if c.isDigit || c = '.' then
      (number? cs).map fun read => (some (.number read.1), read.2)
    else (word? cs).map fun read => (some read.1, read.2)

/-- The tokens of a text, taking at most `limit` steps; a step takes at least one character. -/
def ofCharsWithin? : Nat → List Char → Option (List Token)
  | _, [] => some []
  | 0, _ :: _ => none
  | limit + 1, cs =>
    match next? cs with
    | none => none
    | some (token, rest) => (ofCharsWithin? limit rest).map (token.toList ++ ·)

/-- The tokens of a text. -/
def ofChars? (cs : List Char) : Option (List Token) :=
  ofCharsWithin? cs.length cs

end Token

end RecordFilter.Json5
