/-! Double-precision numbers, held exactly: a finite number is a sign, a significand and a power of
    two, so reading, comparing and printing one is arithmetic on natural numbers. Rounding goes to the
    nearest number, a tie to the even significand. -/

namespace ThingHost

/-! ### Powers -/

/-- The numerator of `base ^ q`. -/
def rise (base : Nat) (q : Int) : Nat := Nat.pow base q.toNat

/-- The denominator of `base ^ q`. -/
def fall (base : Nat) (q : Int) : Nat := Nat.pow base (-q).toNat

/-- A double-precision number. A finite one is `± significand · 2 ^ exponent`, held in the one form
    that `Number.Canonical` describes. -/
inductive Number where
  | nan
  | infinite (negative : Bool)
  | finite (negative : Bool) (significand : Nat) (exponent : Int)
  deriving DecidableEq, Repr, Inhabited

namespace Number

/-- The exponent of the numbers closest to zero. -/
def minExponent : Int := -1074

/-- The exponent of the numbers farthest from zero. -/
def maxExponent : Int := 971

/-- The least significand of 53 bits. -/
def leastFull : Nat := Nat.pow 2 52

/-- The first number that no significand reaches. -/
def significandLimit : Nat := Nat.pow 2 53

/-- A significand has at most 53 bits, and fewer only next to zero. -/
def Canonical : Number → Prop
  | .nan => True
  | .infinite _ => True
  | .finite _ m q =>
    m < significandLimit ∧ minExponent ≤ q ∧ q ≤ maxExponent ∧ (m < leastFull → q = minExponent)

/-- Zero, with its sign. -/
def zero (negative : Bool) : Number := .finite negative 0 minExponent

/-! ### Rounding -/

/-- `a / b` rounded to the nearest natural number, a half to the even one. -/
def roundDiv (a b : Nat) : Nat :=
  let q := a / b
  let twice := 2 * (a % b)
  if twice < b then q
  else if b < twice then q + 1
  else if q % 2 = 0 then q else q + 1

/-- The exponent at which `a / b` has a 53-bit significand, or the least one there is. -/
def exponentFor (a b : Nat) : Int :=
  let guess : Int := (Nat.log2 a : Int) - (Nat.log2 b : Int) - 52
  let q := if leastFull * b * rise 2 guess ≤ a * fall 2 guess then guess else guess - 1
  max minExponent q

/-- The number nearest to `± a / b`, for a positive `b`. -/
def ofRatio (negative : Bool) (a b : Nat) : Number :=
  if a = 0 then zero negative
  else
    let q := exponentFor a b
    let m := roundDiv (a * fall 2 q) (b * rise 2 q)
    let (m, q) := if m = significandLimit then (leastFull, q + 1) else (m, q)
    if maxExponent < q then .infinite negative else .finite negative m q

/-- How many digits `n` is written with. -/
def digitCount (n : Nat) : Nat := (Nat.toDigits 10 n).length

/-- The number nearest to `± digits · 10 ^ power`. A decimal beyond `10 ^ 310` or below `10 ^ -326`
    rounds to infinity or to zero, so its power is never written out. -/
def ofDecimal (negative : Bool) (digits : Nat) (power : Int) : Number :=
  if digits = 0 then zero negative
  else
    let top := (digitCount digits : Int) + power
    if 310 < top then .infinite negative
    else if top < -326 then zero negative
    else ofRatio negative (digits * rise 10 power) (fall 10 power)

/-- The number nearest to a natural number. -/
def ofNat (n : Nat) : Number := ofRatio false n 1

/-- The number nearest to an integer. -/
def ofInt (n : Int) : Number := ofRatio (decide (n < 0)) n.natAbs 1

/-! ### Integers -/

/-- A magnitude with its sign. -/
def signed (negative : Bool) (n : Nat) : Int := if negative then -(n : Int) else (n : Int)

/-- The integer a number is, if it is one. -/
def toInt? : Number → Option Int
  | .nan => none
  | .infinite _ => none
  | .finite negative m q =>
    if m * rise 2 q % fall 2 q = 0 then some (signed negative (m * rise 2 q / fall 2 q)) else none

/-- The integer that is left of a finite number without what stands behind its point. -/
def truncated? : Number → Option Int
  | .finite negative m q => some (signed negative (m * rise 2 q / fall 2 q))
  | _ => none

/-- Equal as numbers: both zeros are one, and NaN equals nothing. -/
def equals : Number → Number → Bool
  | .nan, _ => false
  | .finite _ 0 _, .finite _ 0 _ => true
  | x, y => x = y

/-- The number is less than an integer. -/
def below (bound : Int) : Number → Bool
  | .nan => false
  | .infinite negative => negative
  | .finite negative m q => decide (signed negative (m * rise 2 q) < bound * (fall 2 q : Int))

/-- The number is greater than an integer. -/
def above (bound : Int) : Number → Bool
  | .nan => false
  | .infinite negative => !negative
  | .finite negative m q => decide (bound * (fall 2 q : Int) < signed negative (m * rise 2 q))

end Number
end ThingHost
