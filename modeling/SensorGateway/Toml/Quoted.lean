import SensorGateway.Bytes

/-!
Texts in double quotes, as they are written into a TOML document.
-/

namespace SensorGateway.Toml

/-- A control character by its code, of which four digits are written. -/
def codeEscaped (c : Char) : List Char :=
  '\\' :: 'u' :: '0' :: '0' :: (Hex.ofByte (UInt8.ofNat c.toNat)).map Char.toUpper

/-- How a character is written between quotes. -/
def escaped (c : Char) : List Char :=
  match c with
  | '\x08' => ['\\', 'b']
  | '\t' => ['\\', 't']
  | '\n' => ['\\', 'n']
  | '\x0C' => ['\\', 'f']
  | '\r' => ['\\', 'r']
  | '"' => ['\\', '"']
  | '\\' => ['\\', '\\']
  | c => if c < ' ' || c == '\x7F' then codeEscaped c else [c]

def quoted (text : String) : String :=
  String.ofList ('"' :: text.toList.flatMap escaped ++ ['"'])

end SensorGateway.Toml
