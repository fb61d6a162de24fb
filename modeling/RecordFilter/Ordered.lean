/-!
# Ordered associations

Lists of pairs read as finite maps with an order of their keys.  Inserting a key that is already
there replaces its value and keeps its place; a new key goes to the end.  There are two ways to
take a key out: `erase` closes the gap, and `swapErase` moves the last pair into it.
-/

namespace RecordFilter.Ordered

variable {α : Type _}

/-- The keys in their order. -/
def keys (entries : List (String × α)) : List String :=
  entries.map Prod.fst

/-- The value of the first pair with a key. -/
def get? (key : String) : List (String × α) → Option α
  | [] => none
  | (k, value) :: rest => if k = key then some value else get? key rest

/-- Whether there is a pair with a key. -/
def contains (key : String) (entries : List (String × α)) : Bool :=
  (get? key entries).isSome

/-- Sets the value of a key, in place if the key is there and else at the end, and gives the value
that it replaces. -/
def getThenInsert (key : String) (value : α) :
    List (String × α) → Option α × List (String × α)
  | [] => (none, [(key, value)])
  | (k, old) :: rest =>
    if k = key then (some old, (k, value) :: rest)
    else
      let (previous, changed) := getThenInsert key value rest
      (previous, (k, old) :: changed)

/-- Sets the value of a key: in place if the key is there, else at the end. -/
def insert (key : String) (value : α) (entries : List (String × α)) : List (String × α) :=
  (getThenInsert key value entries).2

theorem insert_nil (key : String) (value : α) : insert key value [] = [(key, value)] := rfl

theorem insert_cons (key : String) (value : α) (entry : String × α) (rest : List (String × α)) :
    insert key value (entry :: rest) =
      if entry.1 = key then (entry.1, value) :: rest else entry :: insert key value rest := by
  rw [insert, getThenInsert]
  split <;> rfl

/-- Takes out the first pair with a key, closes the gap and gives the value of the pair. -/
def getThenErase (key : String) : List (String × α) → Option α × List (String × α)
  | [] => (none, [])
  | (k, value) :: rest =>
    if k = key then (some value, rest)
    else
      let (previous, changed) := getThenErase key rest
      (previous, (k, value) :: changed)

/-- Takes out the first pair with a key and closes the gap. -/
def erase (key : String) (entries : List (String × α)) : List (String × α) :=
  (getThenErase key entries).2

theorem erase_nil (key : String) : erase key ([] : List (String × α)) = [] := rfl

theorem erase_cons (key : String) (entry : String × α) (rest : List (String × α)) :
    erase key (entry :: rest) = if entry.1 = key then rest else entry :: erase key rest := by
  rw [erase, getThenErase]
  split <;> rfl

/-- The pairs with the last one moved to the front. -/
def lastFirst (entries : List (String × α)) : List (String × α) :=
  match entries.getLast? with
  | none => []
  | some last => last :: entries.dropLast

/-- Takes out the first pair with a key and moves the last pair into its place. -/
def swapErase (key : String) : List (String × α) → List (String × α)
  | [] => []
  | (k, value) :: rest =>
    if k = key then lastFirst rest else (k, value) :: swapErase key rest

/-- Inserts pairs one after the other. -/
def insertAll (entries : List (String × α)) : List (String × α) → List (String × α)
  | [] => entries
  | (key, value) :: more => insertAll (insert key value entries) more

/-- The pairs with every key once: in its first place, with its last value. -/
def ofList (entries : List (String × α)) : List (String × α) :=
  insertAll [] entries

end RecordFilter.Ordered
