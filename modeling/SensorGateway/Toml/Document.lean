import SensorGateway.Toml.Statement

/-!
From the lines of a TOML document to its entries. The lines after a header fill
the table of that header, which is put in its place when the next header comes.
No line may define a second time what is defined already.
-/

namespace SensorGateway.Toml

/-- Where the table that is being filled belongs. -/
structure Place where
  path : List String
  key : String
  /-- Whether it is one of several tables. -/
  isElement : Bool

structure Document where
  /-- The entries of the tables that are complete. -/
  root : Entries := []
  /-- The entries of the table that is being filled. -/
  current : Entries := []
  /-- No place is needed for the entries before the first header. -/
  place : Option Place := none

namespace Document

/-- Adds the table that was filled. -/
def addCurrent (document : Document) (place : Place) (entries : Entries) :
    Option (Unit × Entries) :=
  let table := Value.table .header document.current
  match place.isElement, entries.find? place.key with
  | true, none => some ((), entries ++ [(place.key, .tables table [])])
  | true, some (.tables latest earlier) =>
      some ((), entries.set place.key (.tables table (latest :: earlier)))
  | false, none => some ((), entries ++ [(place.key, table)])
  | _, some _ => none

/-- The entries of the whole document as far as it was read. -/
def entries? (document : Document) : Option Entries :=
  match document.place with
  | none => some document.current
  | some place =>
      (Entries.change false (fun _ => document.addCurrent place) place.path .header
        document.root).map (·.2)

/-- What a new table with this key starts with: what was put into it before it
had a header. -/
def startTable (isElement : Bool) (key : String) (entries : Entries) :
    Option (Entries × Entries) :=
  match isElement, entries.find? key with
  | _, none => some ([], entries)
  | true, some (.tables ..) => some ([], entries)
  | false, some (.table .implied inner) => some (inner, entries.erase key)
  | _, some _ => none

/-- Begins the table of a header. -/
def beginTable (isElement : Bool) (path : List String) (document : Document) :
    Option Document := do
  let key ← path.getLast?
  let parents := path.dropLast
  let root ← document.entries?
  let (current, root) ←
    Entries.change false (fun _ => startTable isElement key) parents .header root
  return { root, current, place := some { path := parents, key, isElement } }

def add (document : Document) : Statement → Option Document
  | .empty => some document
  | .header path => document.beginTable false path
  | .element path => document.beginTable true path
  | .assign path value => do
      return { document with current := ← document.current.assignKey path value }

/-- Adds all lines of a text. A line takes at least one character, so that there
are no more than `room` lines. -/
def addLines : Nat → List Char → Document → Option Document
  | _, [], document => some document
  | 0, _ :: _, _ => none
  | room + 1, input, document =>
      match statement input with
      | none => none
      | some (line, rest) =>
          match document.add line with
          | none => none
          | some document => addLines room rest document

end Document

/-- Reads a document. A byte order mark at its beginning does not count. -/
def parse? (text : String) : Option Entries := do
  let input :=
    match text.toList with
    | '\uFEFF' :: rest => rest
    | input => input
  let document ← Document.addLines input.length input {}
  document.entries?

end SensorGateway.Toml
