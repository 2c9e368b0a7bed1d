import SensorGateway.Digit
import SensorGateway.Toml.Value

/-!
The smallest parts of a TOML document: blanks and comments, strings, numbers,
dates and truth values. A reader takes what it is for from the beginning of a
text and gives the rest of the text, or nothing if the text is not well formed.
-/

namespace SensorGateway.Toml

abbrev Reader (α : Type) := List Char → Option (α × List Char)

/-! ### Characters -/

/-- May stand in a comment or in a string as it is. -/
def isPrintable (c : Char) : Bool := c == '\t' || (' ' ≤ c && c != '\x7F')

def isBlank (c : Char) : Bool := c == ' ' || c == '\t'

def isDecimal (c : Char) : Bool := Digit.isDigit 10 c

def skipBlanks (input : List Char) : List Char := input.dropWhile isBlank

/-- Skips blanks, ends of lines and, if `inComment` or after a number sign, a
comment up to the end of its line. -/
def skipLayout (inComment : Bool) : List Char → List Char
  | [] => []
  | '\n' :: rest => skipLayout false rest
  | '\r' :: '\n' :: rest => skipLayout false rest
  | c :: rest =>
      if inComment then
        if isPrintable c then skipLayout true rest else c :: rest
      else if isBlank c then skipLayout false rest
      else if c == '#' then skipLayout true rest
      else c :: rest

/-- Takes the end of a line, before which there may be blanks and a comment, or
the end of the document. -/
def endOfLine (input : List Char) : Option (List Char) :=
  let rest :=
    match skipBlanks input with
    | '#' :: comment => comment.dropWhile isPrintable
    | other => other
  match rest with
  | [] => some []
  | '\n' :: rest => some rest
  | '\r' :: '\n' :: rest => some rest
  | _ => none

/-! ### Strings -/

/-- The character with this code, if there is one. -/
def charOfCode? (code : Nat) : Option Char :=
  if code.isValidChar then some (Char.ofNat code) else none

/-- A character by its code in as many hexadecimal digits as given. -/
def codeEscape (digits : List Char) : Option Char :=
  (Digit.numeral? 16 digits).bind charOfCode?

/-- What the characters after a backslash stand for, and how many they are. -/
def escape : List Char → Option (Char × Nat)
  | 'b' :: _ => some ('\x08', 1)
  | 't' :: _ => some ('\t', 1)
  | 'n' :: _ => some ('\n', 1)
  | 'f' :: _ => some ('\x0C', 1)
  | 'r' :: _ => some ('\r', 1)
  | '"' :: _ => some ('"', 1)
  | '\\' :: _ => some ('\\', 1)
  | 'u' :: rest =>
      if (rest.take 4).length == 4 then (codeEscape (rest.take 4)).map (·, 5) else none
  | 'U' :: rest =>
      if (rest.take 8).length == 8 then (codeEscape (rest.take 8)).map (·, 9) else none
  | _ => none

/-- The rest of a string in double quotes; `taken` is what was read of it, in
reverse. -/
def basicString (taken : List Char) (input : List Char) : Option (String × List Char) :=
  match input with
  | [] => none
  | '"' :: rest => some (String.ofList taken.reverse, rest)
  | '\\' :: rest =>
      match escape rest with
      | some (c, length) => basicString (c :: taken) (rest.drop length)
      | none => none
  | c :: rest => if isPrintable c then basicString (c :: taken) rest else none
termination_by input.length
decreasing_by
  all_goals simp only [List.length_cons, List.length_drop]
  all_goals omega

/-- The rest of a string in single quotes, in which nothing is escaped. -/
def literalString (input : List Char) : Option (String × List Char) :=
  let taken := input.takeWhile fun c => isPrintable c && c != '\''
  match input.drop taken.length with
  | '\'' :: rest => some (String.ofList taken, rest)
  | _ => none

/-- Whether a backslash stands at the end of a line, apart from blanks. The end
of the line and all blanks and ends of lines after it are then left out. -/
def joinsLines (afterBackslash : List Char) : Bool :=
  match skipBlanks afterBackslash with
  | '\n' :: _ => true
  | '\r' :: '\n' :: _ => true
  | _ => false

/-- How many of the first characters are blanks or ends of lines. -/
def blankLength : List Char → Nat
  | '\n' :: rest => blankLength rest + 1
  | '\r' :: '\n' :: rest => blankLength rest + 2
  | c :: rest => if isBlank c then blankLength rest + 1 else 0
  | [] => 0

/-- The rest of a string over several lines. It ends at three quotes; up to two
more before them still belong to it. In a literal one nothing is escaped. -/
def longString (quote : Char) (literal : Bool) (taken : List Char) (input : List Char) :
    Option (String × List Char) :=
  match input with
  | [] => none
  | '\r' :: '\n' :: rest => longString quote literal ('\n' :: taken) rest
  | c :: rest =>
      if c == quote then
        let more := (rest.takeWhile (· == quote)).length
        if more < 2 then longString quote literal (c :: taken) rest
        else if more ≤ 4 then
          some (String.ofList ((List.replicate (more - 2) quote ++ taken).reverse), rest.drop more)
        else none
      else if c == '\\' && !literal then
        if joinsLines rest then
          longString quote literal taken (rest.drop (blankLength rest))
        else
          match escape rest with
          | some (c, length) => longString quote literal (c :: taken) (rest.drop length)
          | none => none
      else if isPrintable c || c == '\n' then longString quote literal (c :: taken) rest
      else none
termination_by input.length
decreasing_by
  all_goals simp only [List.length_cons, List.length_drop]
  all_goals omega

/-- The end of a line right after the opening quotes is left out. -/
def skipFirstNewline : List Char → List Char
  | '\n' :: rest => rest
  | '\r' :: '\n' :: rest => rest
  | input => input

/-- A string of any form. -/
def string : Reader String
  | '"' :: '"' :: '"' :: rest => longString '"' false [] (skipFirstNewline rest)
  | '"' :: rest => basicString [] rest
  | '\'' :: '\'' :: '\'' :: rest => longString '\'' true [] (skipFirstNewline rest)
  | '\'' :: rest => literalString rest
  | _ => none

/-! ### Numbers -/

/-- More digits, between two of which there may be an underscore; `taken` are
those before, in reverse. -/
def moreDigits (base : Nat) (taken : List Char) : Reader (List Char)
  | '_' :: c :: rest =>
      if Digit.isDigit base c then moreDigits base (c :: taken) rest else none
  | ['_'] => none
  | c :: rest =>
      if Digit.isDigit base c then moreDigits base (c :: taken) rest
      else some (taken.reverse, c :: rest)
  | [] => some (taken.reverse, [])

/-- One digit or more. -/
def digits (base : Nat) : Reader (List Char)
  | c :: rest => if Digit.isDigit base c then moreDigits base [c] rest else none
  | [] => none

/-- Whole numbers fit into 64 bits with a sign. -/
def integer (value : Int) : Option Value :=
  if Int64.minValue.toInt ≤ value ∧ value ≤ Int64.maxValue.toInt then some (.integer value)
  else none

/-- A whole number to a base other than ten. -/
def basedInteger (base : Nat) (input : List Char) : Option (Value × List Char) := do
  let (digits, rest) ← digits base input
  return (← integer (Digit.numeral base digits), rest)

/-- Digits in front of a decimal point or of a whole number, which has no zeros
in front. -/
def wholeDigits : Reader (List Char)
  | '0' :: rest => some (['0'], rest)
  | input => digits 10 input

/-- An exponent: its sign and digits. -/
def exponent (input : List Char) : Option (Int × List Char) := do
  let (negative, input) :=
    match input with
    | '-' :: rest => (true, rest)
    | '+' :: rest => (false, rest)
    | _ => (false, input)
  let (digits, rest) ← digits 10 input
  let value : Int := Digit.numeral 10 digits
  return (if negative then -value else value, rest)

/-- Whether `mantissa · 10 ^ exponent` rounds to infinity as a binary number of
double precision. The exponent is looked at first, so that no number is built
that is much larger than its text. -/
def isInfinite (mantissa : List Char) (exponent : Int) : Bool :=
  let value := Digit.numeral 10 mantissa
  let limit := Nat.pow 2 1024 - Nat.pow 2 970
  if value = 0 then false
  else if exponent > 400 then true
  else if exponent ≥ 0 then limit ≤ value * Nat.pow 10 exponent.toNat
  else if (mantissa.length : Int) + exponent ≤ 0 then false
  else limit * Nat.pow 10 (-exponent).toNat ≤ value

/-- A fractional number is refused if it is so great that it counts as
infinite. -/
def fractional (negative : Bool) (mantissa : List Char) (exponent : Int) : Option Value :=
  if !negative && isInfinite mantissa exponent then none else some .float

/-- A number to base ten after its sign. -/
def decimalNumber (negative : Bool) (input : List Char) : Option (Value × List Char) := do
  let (whole, rest) ← wholeDigits input
  match rest with
  | '.' :: rest => do
      let (fraction, rest) ← digits 10 rest
      let (shift, rest) ←
        match rest with
        | 'e' :: rest | 'E' :: rest => exponent rest
        | _ => some (0, rest)
      return (← fractional negative (whole ++ fraction) (shift - fraction.length), rest)
  | 'e' :: rest | 'E' :: rest => do
      let (shift, rest) ← exponent rest
      return (← fractional negative whole shift, rest)
  | _ => do
      let value : Int := Digit.numeral 10 whole
      return (← integer (if negative then -value else value), rest)

/-- The two numbers that have names. -/
def namedNumber : Reader Value
  | 'i' :: 'n' :: 'f' :: rest => some (.float, rest)
  | 'n' :: 'a' :: 'n' :: rest => some (.float, rest)
  | _ => none

def number : Reader Value
  | '0' :: 'x' :: rest => basedInteger 16 rest
  | '0' :: 'o' :: rest => basedInteger 8 rest
  | '0' :: 'b' :: rest => basedInteger 2 rest
  | '+' :: rest => (namedNumber rest).or (decimalNumber false rest)
  | '-' :: rest => (namedNumber rest).or (decimalNumber true rest)
  | input => (namedNumber input).or (decimalNumber false input)

/-! ### Dates and times -/

/-- Two digits that make a number between `least` and `greatest`. -/
def twoDigits (least greatest : Nat) : Reader Nat
  | a :: b :: rest =>
      let value := Digit.numeral 10 [a, b]
      if isDecimal a && isDecimal b && least ≤ value && value ≤ greatest then some (value, rest)
      else none
  | _ => none

/-- Takes one given character. -/
def expect (expected : Char) : List Char → Option (List Char)
  | c :: rest => if c == expected then some rest else none
  | [] => none

def daysInMonth (year month : Nat) : Nat :=
  if month = 2 then
    if year % 4 = 0 ∧ (year % 100 ≠ 0 ∨ year % 400 = 0) then 29 else 28
  else if month = 4 ∨ month = 6 ∨ month = 9 ∨ month = 11 then 30
  else 31

/-- Month and day after the year. -/
def monthAndDay (year : Nat) (input : List Char) : Option (List Char) := do
  let (month, rest) ← twoDigits 1 12 input
  let rest ← expect '-' rest
  let (_, rest) ← twoDigits 1 (daysInMonth year month) rest
  return rest

/-- Minutes, seconds and parts of a second after the hour. A minute may have a
leap second. -/
def restOfTime (input : List Char) : Option (List Char) := do
  let (_, rest) ← twoDigits 0 59 input
  let rest ← expect ':' rest
  let (_, rest) ← twoDigits 0 60 rest
  match rest with
  | '.' :: rest =>
      let fraction := rest.takeWhile isDecimal
      if fraction.isEmpty then none else some (rest.drop fraction.length)
  | _ => some rest

/-- Whether a time of day begins here. -/
def beginsTime : List Char → Bool
  | a :: b :: ':' :: _ => isDecimal a && isDecimal b
  | _ => false

def timeOfDay (input : List Char) : Option (List Char) := do
  let (_, rest) ← twoDigits 0 23 input
  let rest ← expect ':' rest
  restOfTime rest

/-- The difference from universal time, which may be left out. -/
def offset : List Char → Option (List Char)
  | 'Z' :: rest | 'z' :: rest => some rest
  | '+' :: rest | '-' :: rest => do
      let (_, rest) ← twoDigits 0 23 rest
      let rest ← expect ':' rest
      let (_, rest) ← twoDigits 0 59 rest
      return rest
  | input => some input

/-- The time of day after a date, which may be left out. -/
def timeAfterDate (input : List Char) : Option (List Char) :=
  match input with
  | c :: rest =>
      if (c == 'T' || c == 't' || c == ' ') && beginsTime rest then
        (timeOfDay rest).bind offset
      else some input
  | [] => some []

/-- A date with or without a time, a time, or else a number. -/
def dateOrNumber (input : List Char) : Option (Value × List Char) :=
  match input with
  | a :: b :: c :: d :: '-' :: rest =>
      if [a, b, c, d].all isDecimal then
        ((monthAndDay (Digit.numeral 10 [a, b, c, d]) rest).bind timeAfterDate).map (.datetime, ·)
      else number input
  | _ =>
      if beginsTime input then (timeOfDay input).map (.datetime, ·)
      else number input

/-! ### Values without parts -/

/-- A value that is neither an array nor a table. -/
def scalar : Reader Value
  | 't' :: 'r' :: 'u' :: 'e' :: rest => some (.boolean true, rest)
  | 'f' :: 'a' :: 'l' :: 's' :: 'e' :: rest => some (.boolean false, rest)
  | input@('"' :: _) | input@('\'' :: _) =>
      (string input).map fun (text, rest) => (.text text, rest)
  | input => dateOrNumber input

end SensorGateway.Toml
