/-!
The values of a TOML document. Settings need texts, whole numbers, truth values
and collections of these; of any other value it only matters which kind it is.

A table remembers how it came about, because that decides what may still be put
into it: a table in braces is complete, a table with a header takes no further
entries through keys with dots, and a table that so far is only a part of the
name of others may still get a header of its own.
-/

namespace SensorGateway.Toml

/-- How a table came about. -/
inductive Origin where
  /-- By a header of its own. -/
  | header
  /-- As a part of a longer header. -/
  | implied
  /-- By a key with dots. -/
  | dotted
  /-- In braces. -/
  | braces
deriving DecidableEq

/-- Whether something may be put into a table from outside, by a key with dots
or by a header. -/
def Origin.isOpen (origin : Origin) (byKey : Bool) : Bool :=
  match origin with
  | header => !byKey
  | implied | dotted => true
  | braces => false

inductive Value where
  | text (text : String)
  | integer (value : Int)
  | float
  | boolean (value : Bool)
  | datetime
  | array (items : List Value)
  | table (origin : Origin) (entries : List (String × Value))
  /-- Tables that share one header: the latest one, and those before it, later
  ones first. -/
  | tables (latest : Value) (earlier : List Value)

abbrev Entries := List (String × Value)

namespace Entries

def find? (entries : Entries) (key : String) : Option Value :=
  (List.find? (·.1 == key) entries).map (·.2)

/-- Puts a value under a key, in place of the one that is there. -/
def set (key : String) (value : Value) : Entries → Entries
  | [] => [(key, value)]
  | entry :: entries =>
      if entry.1 == key then (key, value) :: entries else entry :: set key value entries

def erase (entries : Entries) (key : String) : Entries :=
  entries.filter (·.1 != key)

/-- Changes the table that is reached along a path, and makes tables where there
are none. Where there are tables under one header, the last one counts. `byKey`
tells whether the path is from a key with dots or from a header. -/
def change {α : Type} (byKey : Bool) (f : Origin → Entries → Option (α × Entries)) :
    List String → Origin → Entries → Option (α × Entries)
  | [], origin, entries => f origin entries
  | key :: path, _, entries =>
      match find? entries key with
      | none => do
          let origin := if byKey then .dotted else .implied
          let (result, inner) ← change byKey f path origin []
          return (result, entries ++ [(key, .table origin inner)])
      | some (.table origin inner) =>
          if origin.isOpen byKey then do
            let (result, inner) ← change byKey f path origin inner
            return (result, set key (.table origin inner) entries)
          else none
      | some (.tables (.table origin inner) earlier) => do
          let (result, inner) ← change byKey f path origin inner
          return (result, set key (.tables (.table origin inner) earlier) entries)
      | some _ => none

/-- Puts a new entry where a key with dots says. The tables on the way to it must
come from keys with dots themselves, and the key must be new. -/
def assign (path : List String) (key : String) (value : Value) (entries : Entries) :
    Option Entries :=
  let add (origin : Origin) (inner : Entries) : Option (Unit × Entries) :=
    if (origin == .dotted) == path.isEmpty then none
    else if (find? inner key).isSome then none
    else some ((), inner ++ [(key, value)])
  (change true add path .header entries).map (·.2)

end Entries

end SensorGateway.Toml
