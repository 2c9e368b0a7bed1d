/-!
The table of topic ids of one session. Ids from 1 to `predefinedSize` are fixed
by configuration and never change; ids above are given out one after the other
and never twice, so that an id once given up stays without a meaning. Entries
are kept in the order of their ids, so that the first entry of a name is the one
with the smallest id.
-/

namespace SensorGateway.Topic

abbrev Entry := UInt16 × String

/-- Puts a name under an id, in place of the name that was there. -/
def insertEntry (id : UInt16) (name : String) : List Entry → List Entry
  | [] => [(id, name)]
  | entry :: entries =>
      if id < entry.1 then (id, name) :: entry :: entries
      else if id = entry.1 then (id, name) :: entries
      else entry :: insertEntry id name entries

structure Table where
  entries : List Entry
  predefinedSize : UInt16
  /-- The next id to be given out; there is none above 65535. -/
  next : Nat

namespace Table

def empty (predefinedSize : UInt16) : Table where
  entries := []
  predefinedSize := predefinedSize
  next := predefinedSize.toNat + 1

def isPredefined (table : Table) (id : UInt16) : Bool :=
  id != 0 && id ≤ table.predefinedSize

/-- A table with these predefined names. An entry whose id is not in the
predefined range is left out; of two with one id the last one counts. -/
def ofPredefined (predefinedSize : UInt16) (entries : List Entry) : Table :=
  entries.foldl
    (fun table (id, name) =>
      if table.isPredefined id then { table with entries := insertEntry id name table.entries }
      else table)
    (empty predefinedSize)

/-- The smallest id of a name. -/
def id? (table : Table) (name : String) : Option UInt16 :=
  (table.entries.find? (·.2 == name)).map (·.1)

/-- The name of an id. -/
def name? (table : Table) (id : UInt16) : Option String :=
  (table.entries.find? (·.1 == id)).map (·.2)

/-- The number of names. -/
def size (table : Table) : Nat := table.entries.length

def isEmpty (table : Table) : Bool := table.entries.isEmpty

/-- Gives out the next id, if there is one left. -/
def allocate (table : Table) : Option UInt16 × Table :=
  if table.next > 65535 then (none, table)
  else (some (UInt16.ofNat table.next), { table with next := table.next + 1 })

/-- Puts a name under an id that is not predefined, and tells whether it did. -/
def assign (table : Table) (id : UInt16) (name : String) : Bool × Table :=
  if id == 0 || table.isPredefined id then (false, table)
  else (true, { table with entries := insertEntry id name table.entries })

/-- The id that a name has, or else a new one. -/
def register (table : Table) (name : String) : Option UInt16 × Table :=
  match table.id? name with
  | some id => (some id, table)
  | none =>
      match table.allocate with
      | (none, table) => (none, table)
      | (some id, table) => (some id, (table.assign id name).2)

/-- Takes the name from an id that is not predefined, and tells whether there
was one. -/
def removeId (table : Table) (id : UInt16) : Bool × Table :=
  if table.isPredefined id then (false, table)
  else
    (table.entries.any (·.1 == id),
      { table with entries := table.entries.filter (·.1 != id) })

/-- Takes a name from every id that is not predefined, and tells from how
many. -/
def removeName (table : Table) (name : String) : Nat × Table :=
  let kept := table.entries.filter fun entry =>
    entry.1 ≤ table.predefinedSize || entry.2 != name
  (table.entries.length - kept.length, { table with entries := kept })

end Table

end SensorGateway.Topic
