/-!
# Digits

Numbers in any radix up to 36, as they are spelled by digits and letters of either case.
-/

namespace Bindery.Text

def digitValue? (c : Char) : Option Nat :=
  if '0' ≤ c ∧ c ≤ '9' then some (c.toNat - '0'.toNat)
  else if 'a' ≤ c ∧ c ≤ 'z' then some (c.toNat - 'a'.toNat + 10)
  else if 'A' ≤ c ∧ c ≤ 'Z' then some (c.toNat - 'A'.toNat + 10)
  else none

/-- The number that one or more digits of a radix spell. -/
def inRadix? (radix : Nat) (digits : List Char) : Option Nat :=
  if digits.isEmpty then none
  else
    digits.foldlM (fun value c => do
      let digit ← digitValue? c
      if digit < radix then some (value * radix + digit) else none) 0

/-- The digit of a value below 16, in lowercase. -/
def hexDigit (value : Nat) : Char :=
  if value < 10 then Char.ofNat (0x30 + value) else Char.ofNat (0x61 + (value - 10))

/-- The last digits of a code in hexadecimal, as many as are asked for. -/
def hexDigits : Nat → Nat → List Char
  | 0, _ => []
  | count + 1, code => hexDigits count (code / 16) ++ [hexDigit (code % 16)]

end Bindery.Text
