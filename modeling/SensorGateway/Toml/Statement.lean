import SensorGateway.Toml.Scalar

/-!
The lines of a TOML document: each is empty or a comment, is a header of a table
or of one of several tables, or puts a value under a key.
-/

namespace SensorGateway.Toml

/-- No key has this many parts, and values do not stand in each other this
deep. -/
def maxDepth : Nat := 80

/-! ### Keys -/

def isBareKeyChar (c : Char) : Bool :=
  isDecimal c || ('a' ≤ c && c ≤ 'z') || ('A' ≤ c && c ≤ 'Z') || c == '-' || c == '_'

/-- One part of a key. -/
def keyPart : Reader String
  | '"' :: rest => basicString [] rest
  | '\'' :: rest => literalString rest
  | input =>
      let bare := input.takeWhile isBareKeyChar
      if bare.isEmpty then none else some (String.ofList bare, input.drop bare.length)

/-- A key of at most `room` parts, which are separated by dots. -/
def keyWithin : Nat → Reader (List String)
  | 0, _ => none
  | room + 1, input => do
      let (part, rest) ← keyPart (skipBlanks input)
      match skipBlanks rest with
      | '.' :: rest => do
          let (parts, rest) ← keyWithin room rest
          return (part :: parts, rest)
      | rest => return ([part], rest)

def key : Reader (List String) := keyWithin (maxDepth - 1)

/-! ### Values -/

/-- The items of an array after its opening bracket, of which there are at most
`room`; `taken` are those before, in reverse. The last one may be followed by a
comma. -/
def arrayItems (item : Reader Value) : Nat → List Value → Reader (List Value)
  | 0, _, _ => none
  | room + 1, taken, input =>
      match skipLayout false input with
      | ']' :: rest => some (taken.reverse, rest)
      | input =>
          match item input with
          | none => none
          | some (value, rest) =>
              match skipLayout false rest with
              | ',' :: rest => arrayItems item room (value :: taken) rest
              | ']' :: rest => some ((value :: taken).reverse, rest)
              | _ => none

/-- A key and its value. -/
def assignment (value : Reader Value) (input : List Char) :
    Option ((List String × Value) × List Char) := do
  let (path, rest) ← key input
  let rest ← expect '=' rest
  let (value, rest) ← value (skipBlanks rest)
  return ((path, value), rest)

/-- Puts a value where a key says. -/
def Entries.assignKey (entries : Entries) (path : List String) (value : Value) : Option Entries :=
  match path.getLast? with
  | some key => entries.assign path.dropLast key value
  | none => none

/-- The entries of a table in braces, which stands on one line; `entries` are
those before, and there are at most `room` more. -/
def tableEntries (item : Reader Value) : Nat → Entries → Reader Entries
  | 0, _, _ => none
  | room + 1, entries, input => do
      let ((path, value), rest) ← assignment item input
      let entries ← entries.assignKey path value
      match skipBlanks rest with
      | ',' :: rest => tableEntries item room entries rest
      | '}' :: rest => some (entries, rest)
      | _ => none

/-- A table after its opening brace. -/
def tableInBraces (item : Reader Value) (input : List Char) : Option (Value × List Char) :=
  match skipBlanks input with
  | '}' :: rest => some (.table .braces [], rest)
  | input =>
      (tableEntries item input.length [] input).map fun (entries, rest) =>
        (.table .braces entries, rest)

/-- A value in which arrays and tables stand in each other at most `depth`
deep. -/
def valueWithin : Nat → Reader Value
  | depth + 1, '[' :: rest =>
      (arrayItems (valueWithin depth) (rest.length + 1) [] rest).map fun (items, rest) =>
        (.array items, rest)
  | depth + 1, '{' :: rest => tableInBraces (valueWithin depth) rest
  | _, input => scalar input

def value : Reader Value := valueWithin (maxDepth - 1)

/-! ### Lines -/

inductive Statement where
  | empty
  | header (path : List String)
  /-- The header of one of several tables. -/
  | element (path : List String)
  | assign (path : List String) (value : Value)

/-- One line, or more if a value goes on over several lines. -/
def statement (input : List Char) : Option (Statement × List Char) :=
  match skipBlanks input with
  | '[' :: '[' :: rest => do
      let (path, rest) ← key rest
      let rest ← expect ']' rest
      let rest ← expect ']' rest
      return (.element path, ← endOfLine rest)
  | '[' :: rest => do
      let (path, rest) ← key rest
      let rest ← expect ']' rest
      return (.header path, ← endOfLine rest)
  | input =>
      match endOfLine input with
      | some rest => some (.empty, rest)
      | none => do
          let ((path, value), rest) ← assignment value input
          return (.assign path value, ← endOfLine rest)

end SensorGateway.Toml
