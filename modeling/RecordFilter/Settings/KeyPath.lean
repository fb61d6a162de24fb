import RecordFilter.Json5.Parser
import RecordFilter.Ordered

/-!
# Keys that are paths

A key at the top of a settings file is a path into a document: the name of a member, followed by
names after a dot and by indices in square brackets.  `KeyPath.ofKey` reads a key as a path; a
key that is none is the name of a member as it stands.

`Document.setAt` sets a value at the end of a path.  What is in the way is replaced: a table is
made where a name is looked up, and a list where an index is.
-/

namespace RecordFilter

namespace Json5.Document

/-- The members of a table; what is no table has none. -/
def members : Document → List (String × Document)
  | .table members => members
  | _ => []

/-- The items of a list; what is no list has none. -/
def items : Document → List Document
  | .list items => items
  | _ => []

end Json5.Document

namespace Settings

open Json5 (Document)

/-- A step of a path into a document. -/
inductive Step where
  | name (name : String)
  | index (index : Int)
  deriving DecidableEq, Repr

/-- The steps of a path, the first of which leads into a table. -/
structure KeyPath where
  first : String
  rest : List Step
  deriving DecidableEq, Repr

namespace KeyPath

/-- Whether a character may stand in a name of a path. -/
def isNameChar (c : Char) : Bool :=
  c.isAlphanum || c = '_' || c = '-' || c = ' '

/-- Reads a name: its text, and what follows it. -/
def name? (cs : List Char) : Option (String × List Char) :=
  match cs.takeWhile isNameChar with
  | [] => none
  | name => some (String.ofList name, cs.dropWhile isNameChar)

/-- What follows the spaces and tabs at the start of a text. -/
def afterSpace (cs : List Char) : List Char :=
  cs.dropWhile fun c => c = ' ' || c = '\t'

/-- Reads the digits of an index: the index, which must fit in 64 bits, and what follows it. -/
def digits? (negative : Bool) (cs : List Char) : Option (Int × List Char) :=
  match Json.Token.digits cs with
  | [] => none
  | digits =>
    let magnitude : Int := Numeral.natOf 0 digits
    let index := if negative then -magnitude else magnitude
    if -Int.pow 2 63 ≤ index ∧ index < Int.pow 2 63 then
      some (index, Json.Token.afterDigits cs)
    else none

/-- Reads an index after its opening bracket: the index, and what follows the closing one. -/
def index? (cs : List Char) : Option (Int × List Char) :=
  let read :=
    match afterSpace cs with
    | '-' :: rest => digits? true rest
    | rest => digits? false rest
  match read with
  | none => none
  | some (index, rest) =>
    match afterSpace rest with
    | ']' :: rest => some (index, rest)
    | _ => none

/-- Reads one step. -/
def step? : List Char → Option (Step × List Char)
  | '.' :: rest => (name? rest).map fun read => (.name read.1, read.2)
  | '[' :: rest => (index? rest).map fun read => (.index read.1, read.2)
  | _ => none

/-- Reads at most `limit` steps, which must be the whole text; a step takes at least one
character. -/
def stepsWithin? : Nat → List Char → Option (List Step)
  | _, [] => some []
  | 0, _ :: _ => none
  | limit + 1, cs =>
    match step? cs with
    | none => none
    | some (step, rest) => (stepsWithin? limit rest).map (step :: ·)

/-- The path that a key is. -/
def ofKey (key : String) : KeyPath :=
  let path := (name? key.toList).bind fun read =>
    (stepsWithin? read.2.length read.2).map (⟨read.1, ·⟩)
  path.getD ⟨key, []⟩

end KeyPath

/-- A key without regard to case.  The Kelvin sign is the one character beyond ASCII whose small
letter is an ASCII letter. -/
def foldKey (key : String) : String :=
  String.ofList (key.toList.map fun c => if c.toNat = 0x212A then 'k' else c.toLower)

mutual

/-- Lays a value over what is there, if anything is: a table is laid over a table member by
member, and anything else takes the place of what is there. -/
def layValue (there : Option Document) : Document → Document
  | .table [] => there.getD (.table [])
  | .table (member :: rest) =>
    .table (layMembers ((there.map Document.members).getD []) (member :: rest))
  | value => value

/-- Lays members over a table. -/
def layMembers (there : List (String × Document)) :
    List (String × Document) → List (String × Document)
  | [] => there
  | (key, value) :: rest =>
    let key := foldKey key
    layMembers (Ordered.insert key (layValue (Ordered.get? key there) value) there) rest

end

/-- The items of a list with room for an index, and the position of the index.  A negative index
counts from the end.  Items that are not there yet are null. -/
def roomFor (items : List Document) (index : Int) : List Document × Nat :=
  let position := if index < 0 then items.length + index else index
  if position < 0 then (List.replicate position.natAbs .null ++ items, 0)
  else
    let position := position.toNat
    (items ++ List.replicate (position + 1 - items.length) .null, position)

/-- What is there after a value has been set at the end of some steps. -/
def setAt (value : Document) : List Step → Option Document → Document
  | [], there => layValue there value
  | .name name :: rest, there =>
    let members := (there.map Document.members).getD []
    .table (Ordered.insert name (setAt value rest (Ordered.get? name members)) members)
  | .index index :: rest, there =>
    let (items, position) := roomFor ((there.map Document.items).getD []) index
    .list (items.set position (setAt value rest items[position]?))

/-- Lays the members of a file over a table; every key is a path. -/
def layFile (there : List (String × Document)) :
    List (String × Document) → List (String × Document)
  | [] => there
  | (key, value) :: rest =>
    let path := KeyPath.ofKey (foldKey key)
    let set := setAt value path.rest (Ordered.get? path.first there)
    layFile (Ordered.insert path.first set there) rest

end Settings

end RecordFilter
