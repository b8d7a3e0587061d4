namespace MissionLint

/-!
# Insertion ordered tables

A table is a list of entries.  Putting a new key appends an entry, and putting a
known key changes its value in place, so the keys keep the order in which they
were first put.
-/

/-- Entries in the order in which their keys were first put. -/
abbrev Table (Key Value : Type) := List (Key × Value)

namespace Table

variable {Key Value : Type} [BEq Key]

/-- The keys in order. -/
def keys (table : Table Key Value) : List Key :=
  table.map Prod.fst

/-- The values in the order of their keys. -/
def values (table : Table Key Value) : List Value :=
  table.map Prod.snd

/-- The first value under a key. -/
def find? (table : Table Key Value) (key : Key) : Option Value :=
  table.lookup key

/-- Whether a key has an entry. -/
def has (table : Table Key Value) (key : Key) : Bool :=
  (table.lookup key).isSome

/-- Give a key a value, in place when the key is known. -/
def put (key : Key) (value : Value) : Table Key Value → Table Key Value
  | [] => [(key, value)]
  | (first, held) :: rest =>
      if key == first then
        (first, value) :: rest
      else
        (first, held) :: put key value rest

/-- Change the value of a key where it stands. -/
def modify (key : Key) (change : Value → Value) : Table Key Value → Table Key Value
  | [] => []
  | (first, held) :: rest =>
      if key == first then
        (first, change held) :: rest
      else
        (first, held) :: modify key change rest

/-- The table that puts a list of entries one after another. -/
def ofEntries (entries : List (Key × Value)) : Table Key Value :=
  entries.foldl (fun table entry => table.put entry.1 entry.2) []

end Table

end MissionLint
