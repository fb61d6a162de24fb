/-!
# Blank characters, trimming and splitting

The text operations that field names, tokens and list values go through: the blank characters
are those with the Unicode property White_Space, trimming takes them off both ends, and a text
is cut at a separator either everywhere (`split`) or at its first occurrence (`cut?`).

Every operation is defined on the list of characters and carried over to `String`, so that
statements about texts are statements about lists.
-/

namespace RecordFilter.Text

/-- A character is blank if it has the Unicode property White_Space.  The zero-width space and
the byte order mark do not have it. -/
def isBlank (c : Char) : Bool :=
  let n := c.toNat
  (0x9 ≤ n && n ≤ 0xD) || n == 0x20 || n == 0x85 || n == 0xA0 || n == 0x1680 ||
    (0x2000 ≤ n && n ≤ 0x200A) || n == 0x2028 || n == 0x2029 || n == 0x202F || n == 0x205F ||
    n == 0x3000

/-- Drops the blank characters at the end. -/
def trimEnd (cs : List Char) : List Char :=
  (cs.reverse.dropWhile isBlank).reverse

/-- Drops the blank characters at both ends. -/
def trimChars (cs : List Char) : List Char :=
  trimEnd (cs.dropWhile isBlank)

/-- The text without the blank characters at its two ends. -/
def trim (s : String) : String :=
  String.ofList (trimChars s.toList)

/-- A text is blank if it holds nothing but blank characters. -/
def isBlankText (s : String) : Bool :=
  s.toList.all isBlank

/-- The text with the ASCII capitals replaced by small letters; all else is kept. -/
def lowerAscii (s : String) : String :=
  String.ofList (s.toList.map Char.toLower)

/-- The pieces of a character list between the occurrences of a separator; there is one piece
more than there are separators. -/
def splitChars (sep : Char) : List Char → List (List Char)
  | [] => [[]]
  | c :: rest =>
    if c = sep then
      [] :: splitChars sep rest
    else
      match splitChars sep rest with
      | [] => [[c]]
      | piece :: pieces => (c :: piece) :: pieces

/-- The pieces of a text between the occurrences of a separator. -/
def split (sep : Char) (s : String) : List String :=
  (splitChars sep s.toList).map String.ofList

/-- The two parts of a character list around the first separator, if there is one. -/
def cutChars? (sep : Char) : List Char → Option (List Char × List Char)
  | [] => none
  | c :: rest =>
    if c = sep then some ([], rest)
    else (cutChars? sep rest).map fun parts => (c :: parts.1, parts.2)

/-- The two parts of a text around the first separator, if there is one. -/
def cut? (sep : Char) (s : String) : Option (String × String) :=
  (cutChars? sep s.toList).map fun parts => (String.ofList parts.1, String.ofList parts.2)

/-- The items of a comma separated list: trimmed, and without the blank ones. -/
def splitList (s : String) : List String :=
  ((split ',' s).map trim).filter (· ≠ "")

/-- Whether the first text starts with the second. -/
def startsWith (s start : String) : Bool :=
  start.toList.isPrefixOf s.toList

/-- The texts one after the other, with a separator between neighbours. -/
def join (sep : String) : List String → String
  | [] => ""
  | [s] => s
  | s :: rest => s ++ sep ++ join sep rest

end RecordFilter.Text
