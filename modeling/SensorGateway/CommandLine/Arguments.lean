/-!
How the arguments of a command are read. Options come first, in any order and
each at most once; what follows them, if anything, is a word. Reading goes from
left to right, and the first thing that is wrong or that asks for a text to be
shown decides. A value that is an argument of its own is not looked at before
the next option is, so that what a word leads to comes before a complaint about
the value of the last option.
-/

namespace SensorGateway.CommandLine

/-- An option with a value. -/
structure ValueOption where
  short : Option Char := none
  long : String
  valueName : String
  about : String
  /-- The value of a path is not empty. -/
  isPath : Bool := true
  isRequired : Bool := false
  /-- The value if the option is not given. -/
  default : Option String := none

/-- A command and what may be given to it. -/
structure Command where
  /-- How it is called, beginning with the name of the program. -/
  call : String
  about : String
  options : List ValueOption := []
  hasHelp : Bool := true
  hasVersion : Bool := false
  /-- The commands that may follow, and what they are for. -/
  commands : List (String × String) := []
  /-- The other words that may follow, and what they are for. -/
  words : List (String × String) := []

/-! ### One argument -/

inductive Argument where
  | word
  /-- Two hyphens, after which there are no more options. -/
  | separator
  | long (name : String) (value : Option String)
  | short (name : Char) (rest : List Char)

/-- The form of an argument. A single hyphen is a word. -/
def Argument.ofString (argument : String) : Argument :=
  match argument.toList with
  | ['-', '-'] => separator
  | '-' :: '-' :: rest =>
      let name := rest.takeWhile (· != '=')
      match rest.drop name.length with
      | _ :: value => long (String.ofList name) (some (String.ofList value))
      | [] => long (String.ofList name) none
  | '-' :: name :: rest => short name rest
  | _ => word

/-- What an argument that is not a word asks for. -/
inductive Meaning where
  | help
  | version
  | value (option : ValueOption) (attached : Option String)
  | unknown

/-- The value in the same argument as the short name of an option; an equals
sign may stand before it. -/
def attachedValue : List Char → Option String
  | [] => none
  | '=' :: value => some (String.ofList value)
  | value => some (String.ofList value)

def Command.meaning (command : Command) : Argument → Meaning
  | .long name attached =>
      if name == "help" && command.hasHelp then if attached.isNone then .help else .unknown
      else if name == "version" && command.hasVersion then
        if attached.isNone then .version else .unknown
      else
        match command.options.find? (·.long == name) with
        | some option => .value option attached
        | none => .unknown
  | .short name rest =>
      if name == 'h' && command.hasHelp then .help
      else if name == 'V' && command.hasVersion then .version
      else
        match command.options.find? (·.short == some name) with
        | some option => .value option (attachedValue rest)
        | none => .unknown
  | .word | .separator => .unknown

/-! ### All arguments -/

/-- The values that were given, by the long names of their options. -/
abbrev Values := List (String × String)

def ValueOption.value? (option : ValueOption) (values : Values) : Option String :=
  ((values.find? (·.1 == option.long)).map (·.2)).or option.default

/-- Notes the value of an option unless it has one or this one is not allowed. -/
def ValueOption.give (option : ValueOption) (value : String) (values : Values) : Option Values :=
  if values.any (·.1 == option.long) || (option.isPath && value.isEmpty) then none
  else some (values ++ [(option.long, value)])

/-- What was given so far. -/
structure Given where
  values : Values := []
  /-- The value of the last option, if it has not been looked at. -/
  held : Option (ValueOption × String) := none

/-- All values, unless the one that was not looked at is not allowed. -/
def Given.settle (given : Given) : Option Values :=
  match given.held with
  | none => some given.values
  | some (option, value) => option.give value given.values

inductive Reading where
  /-- The options are read; the first of the remaining arguments is a word. -/
  | options (given : Given) (remaining : List String)
  | help
  | version
  | misuse

/-- Reads options after those that were given. -/
def Command.read (command : Command) (given : Given) (arguments : List String) : Reading :=
  match arguments with
  | [] => .options given []
  | argument :: rest =>
      match Argument.ofString argument with
      | .word => .options given (argument :: rest)
      | .separator => if rest.isEmpty then .options given [] else .misuse
      | argument =>
          match given.settle with
          | none => .misuse
          | some values =>
              match command.meaning argument with
              | .help => .help
              | .version => .version
              | .unknown => .misuse
              | .value option (some value) =>
                  match option.give value values with
                  | some values => command.read { values } rest
                  | none => .misuse
              | .value option none =>
                  match rest with
                  | [] => .misuse
                  | value :: rest =>
                      match Argument.ofString value with
                      | .word => command.read { values, held := some (option, value) } rest
                      | _ => .misuse
termination_by arguments.length

end SensorGateway.CommandLine
