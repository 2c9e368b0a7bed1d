import SensorGateway.CommandLine.Arguments

/-!
The text that tells how a command is used. In each of its parts the descriptions
stand below each other, two blanks after the longest name.
-/

namespace SensorGateway.CommandLine

def ValueOption.signature (option : ValueOption) : String :=
  "--" ++ option.long ++ " <" ++ option.valueName ++ ">"

/-- The names of an option. The place of a short one stays empty without it. -/
def namesColumn (short : Option Char) (long : String) : String :=
  match short with
  | some c => "-" ++ String.singleton c ++ ", " ++ long
  | none => "    " ++ long

def ValueOption.row (option : ValueOption) : String × String :=
  (namesColumn option.short option.signature,
    match option.default with
    | some value => option.about ++ " [default: " ++ value ++ "]"
    | none => option.about)

def Command.optionRows (command : Command) : List (String × String) :=
  command.options.map ValueOption.row ++
    (if command.hasHelp then [(namesColumn (some 'h') "--help", "Print help")] else []) ++
    (if command.hasVersion then [(namesColumn (some 'V') "--version", "Print version")] else [])

def spaces (count : Nat) : String := String.ofList (List.replicate count ' ')

/-- A part of the text, which is left out if it has no rows. -/
def partLines (title : String) (rows : List (String × String)) : String :=
  if rows.isEmpty then ""
  else
    let width := rows.foldl (fun width row => max width row.1.length) 0
    "\n" ++ title ++ ":\n" ++
      String.join (rows.map fun (name, about) =>
        "  " ++ name ++ spaces (width - name.length + 2) ++ about ++ "\n")

/-- What may be written after the name of a command. -/
def Command.usage (command : Command) : String :=
  let (required, others) := command.options.partition (·.isRequired)
  let parts :=
    (if others.isEmpty then [] else ["[OPTIONS]"]) ++ required.map ValueOption.signature ++
      (if command.commands.isEmpty then [] else ["[COMMAND]"]) ++ command.words.map (·.1)
  " ".intercalate (command.call :: parts)

def Command.help (command : Command) : String :=
  command.about ++ "\n\nUsage: " ++ command.usage ++ "\n" ++
    partLines "Commands" command.commands ++
    partLines "Arguments" command.words ++
    partLines "Options" command.optionRows

end SensorGateway.CommandLine
