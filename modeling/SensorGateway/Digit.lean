/-!
Digits, and the numbers that they make to some base up to sixteen. Above nine
the letters are digits, whether small or capital.
-/

namespace SensorGateway.Digit

/-- The value of a digit to this base. -/
def value? (base : Nat) (c : Char) : Option Nat :=
  let value :=
    if '0' ≤ c && c ≤ '9' then c.toNat - '0'.toNat
    else if 'a' ≤ c && c ≤ 'f' then c.toNat - 'a'.toNat + 10
    else if 'A' ≤ c && c ≤ 'F' then c.toNat - 'A'.toNat + 10
    else base
  if value < base then some value else none

def isDigit (base : Nat) (c : Char) : Bool := (value? base c).isSome

/-- The number that some digits make. -/
def numeral? (base : Nat) (digits : List Char) : Option Nat :=
  digits.foldlM (fun number c => (value? base c).map (number * base + ·)) 0

/-- The number that digits make which are known to be digits. -/
def numeral (base : Nat) (digits : List Char) : Nat :=
  (numeral? base digits).getD 0

end SensorGateway.Digit
