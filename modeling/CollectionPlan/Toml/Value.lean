namespace CollectionPlan.Toml

-- How a table came to be, which decides on what can still be added to it.
inductive Origin
  -- A header names it.
  | header
  -- A header goes through it.
  | implied
  -- A key with dots goes through it.
  | dotted
  -- It is written as a value.
  | inline
deriving DecidableEq, Repr

inductive Value
  | text (value : String)
  | flag (value : Bool)
  | number
  | time
  | list (items : List Value)
  | table (origin : Origin) (entries : List (String × Value))
  -- Tables that share a header.
  | tables (items : List (List (String × Value)))
deriving Repr

abbrev Entries := List (String × Value)

namespace Entries

def has (es : Entries) (key : String) : Bool :=
  (es.lookup key).isSome

-- Keys keep their places; a new one is the last.
def set (key : String) (value : Value) : Entries → Entries
  | []      => [(key, value)]
  | e :: es => if e.1 = key then (key, value) :: es else e :: set key value es

def add? (key : String) (value : Value) (es : Entries) : Option Entries :=
  if es.has key then none else some (es.set key value)

-- Changes the last table of some.
def inLast? (f : Entries → Option Entries) : List Entries → Option (List Entries)
  | []      => none
  | [t]     => (f t).map ([·])
  | t :: ts => (inLast? f ts).map (t :: ·)

-- Changes the table at the end of a path, which is made where it is missing. A header can go
-- through all tables but those written as values. A key with dots stops at every table that has a
-- header as well.
def update? (way : Origin) (f : Origin → Entries → Option Entries) :
    List String → Origin → Entries → Option Entries
  | [], origin, es        => f origin es
  | key :: path, _, es => do
    let value ← match es.lookup key with
      | none                      => (update? way f path way []).map (Value.table way)
      | some (.table origin inner) =>
        if origin = .inline || (way = .dotted && origin = .header) then none
        else (update? way f path origin inner).map (Value.table origin)
      | some (.tables items)      =>
        if way = .dotted then none
        else (inLast? (update? way f path .header) items).map Value.tables
      | some _                    => none
    return es.set key value

-- A pair whose key has dots belongs to a table that only such keys make.
def addPair? (path : List String) (value : Value) (es : Entries) : Option Entries := do
  let name ← path.getLast?
  let way := path.dropLast
  update? .dotted (fun origin inner =>
    if !way.isEmpty && origin ≠ .dotted then none else inner.add? name value) way .header es

-- A header names a new table, or one that only longer headers went through.
def addTable? (path : List String) (es : Entries) : Option Entries := do
  let name ← path.getLast?
  update? .implied (fun _ inner =>
    match inner.lookup name with
    | none                          => some (inner.set name (.table .header []))
    | some (.table .implied entries) => some (inner.set name (.table .header entries))
    | some _                        => none) path.dropLast .header es

-- A doubled header adds a table to those that share it.
def addItem? (path : List String) (es : Entries) : Option Entries := do
  let name ← path.getLast?
  update? .implied (fun _ inner =>
    match inner.lookup name with
    | none                => some (inner.set name (.tables [[]]))
    | some (.tables items) => some (inner.set name (.tables (items ++ [[]])))
    | some _              => none) path.dropLast .header es

-- Adds a pair to the table that a header has named.
def addPairUnder? (header path : List String) (value : Value) (es : Entries) : Option Entries :=
  update? .implied (fun _ inner => addPair? path value inner) header .header es

end Entries
end CollectionPlan.Toml
