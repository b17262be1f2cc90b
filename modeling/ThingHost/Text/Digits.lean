/-! Digits and the natural numbers they spell, in any radix up to 36. -/

namespace ThingHost
namespace Digits

/-- The value of a digit: 0 to 9, then the letters of either case. -/
def value? (radix : Nat) (c : Char) : Option Nat :=
  let value :=
    if c.isDigit then some (c.toNat - '0'.toNat)
    else if 'a' ≤ c ∧ c ≤ 'z' then some (c.toNat - 'a'.toNat + 10)
    else if 'A' ≤ c ∧ c ≤ 'Z' then some (c.toNat - 'A'.toNat + 10)
    else none
  value.filter (· < radix)

/-- The number that digits spell; no digits spell zero. -/
def read? (radix : Nat) (digits : List Char) : Option Nat :=
  digits.foldlM (fun n c => (value? radix c).map (radix * n + ·)) 0

/-- As `read?`, but there must be a digit. -/
def readSome? (radix : Nat) (digits : List Char) : Option Nat :=
  if digits.isEmpty then none else read? radix digits

/-- The leading decimal digits of a text, and what follows them. -/
def span (text : List Char) : List Char × List Char :=
  (text.takeWhile Char.isDigit, text.dropWhile Char.isDigit)

/-- The last hexadecimal digit of a number, in lower case. -/
def hex (n : Nat) : Char := (Nat.toDigits 16 (n % 16)).headD '0'

end Digits
end ThingHost
