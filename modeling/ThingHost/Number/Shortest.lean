import ThingHost.Number.Basic

/-! The shortest decimal of a number: the fewest digits that read back as the number, of those the
    nearest to it, of two equally near the even one. `Number.text` writes it positionally where the
    decimal point lies at most 21 places to the right of the first digit and at most six zeros follow
    the point before it, and with an exponent elsewhere. -/

namespace ThingHost
namespace Number

/-- A positive decimal `digits · 10 ^ power`. -/
structure Decimal where
  digits : Nat
  power : Int
  deriving DecidableEq, Repr

/-- The reals that round to `m · 2 ^ q`, as numerators over the common `denominator`: the number lies
    at `value`, and the ends belong to the interval when `closed`. -/
structure Interval where
  low : Nat
  value : Nat
  high : Nat
  denominator : Nat
  closed : Bool

/-- The interval of `m · 2 ^ q`. At a power of two the neighbour below is twice as close. -/
def interval (m : Nat) (q : Int) : Interval :=
  let gap := if m = leastFull ∧ minExponent < q then 1 else 2
  { low := (4 * m - gap) * rise 2 q
    value := 4 * m * rise 2 q
    high := (4 * m + 2) * rise 2 q
    denominator := 4 * fall 2 q
    closed := m % 2 = 0 }

/-- The decimal `n · 10 ^ power` lies in the interval. -/
def Interval.holds (i : Interval) (n : Nat) (power : Int) : Bool :=
  let x := n * rise 10 power * i.denominator
  let scale := fall 10 power
  if i.closed then i.low * scale ≤ x && x ≤ i.high * scale
  else i.low * scale < x && x < i.high * scale

/-- The multiple of `10 ^ power` at or below the value, and how twice the rest compares with one unit,
    which says whether the multiple above is nearer. -/
def Interval.around (i : Interval) (power : Int) : Nat × Ordering :=
  let a := i.value * fall 10 power
  let b := i.denominator * rise 10 power
  (a / b, compare (2 * (a % b)) b)

/-- The nearest multiple of `10 ^ power` that lies in the interval, if one does. -/
def Interval.onGrid? (i : Interval) (power : Int) : Option Nat :=
  let (n, order) := i.around power
  match i.holds n power && n != 0, i.holds (n + 1) power with
  | true, true =>
    match order with
    | .lt => some n
    | .gt => some (n + 1)
    | .eq => some (if n % 2 = 0 then n else n + 1)
  | true, false => some n
  | false, true => some (n + 1)
  | false, false => none

/-- A place above the value's first digit, but not by much: the value is less than `2 ^ (bits + 1)`, and
    a bit is a little more than 0.3 of a digit. -/
def Interval.guess (i : Interval) : Int :=
  let bits : Int := (Nat.log2 i.value : Int) - (Nat.log2 i.denominator : Int)
  ((bits + 1) * 30103).fdiv 100000 + 2

/-- The place of the value's first digit: the least `k` with `value < 10 ^ k`, searched downwards. -/
def Interval.top (i : Interval) : Nat → Int → Int
  | 0, k => k
  | fuel + 1, k =>
    if i.denominator * rise 10 (k - 1) ≤ i.value * fall 10 (k - 1) then k else i.top fuel (k - 1)

/-- The first hit among the grids of `n`, `n + 1`, … digits below `10 ^ top`. -/
def Interval.search (i : Interval) (top : Int) : Nat → Nat → Decimal
  | 0, n => { digits := (i.around (top - n)).1, power := top - n }
  | fuel + 1, n =>
    match i.onGrid? (top - n) with
    | some digits => { digits, power := top - n }
    | none => i.search top fuel (n + 1)

/-- The shortest decimal of `m · 2 ^ q`, for a positive `m`. Seventeen digits always suffice. -/
def shortest (m : Nat) (q : Int) : Decimal :=
  let i := interval m q
  i.search (i.top 6 i.guess) 17 1

/-! ### Text -/

/-- Zeros at the end of the digits go into the power. -/
def Decimal.stripped : Nat → Decimal → Decimal
  | 0, d => d
  | fuel + 1, d =>
    if d.digits % 10 = 0 then stripped fuel { digits := d.digits / 10, power := d.power + 1 } else d

def zeros (n : Nat) : List Char := List.replicate n '0'

/-- The text of a positive decimal. With `n` the place of the decimal point after the first digit:
    positional for `-6 < n ≤ 21`, else with an exponent. -/
def Decimal.text (d : Decimal) : List Char :=
  let d := stripped 20 d
  let digits := Nat.toDigits 10 d.digits
  let point : Int := (digits.length : Int) + d.power
  if 0 ≤ d.power ∧ point ≤ 21 then digits ++ zeros d.power.toNat
  else if 0 < point ∧ point ≤ 21 then
    digits.take point.toNat ++ '.' :: digits.drop point.toNat
  else if -6 < point ∧ point ≤ 0 then '0' :: '.' :: (zeros (-point).toNat ++ digits)
  else
    let exponent := point - 1
    let sign := if exponent < 0 then '-' else '+'
    let mark := 'e' :: sign :: Nat.toDigits 10 exponent.natAbs
    match digits with
    | [] => mark
    | [digit] => digit :: mark
    | digit :: more => digit :: '.' :: (more ++ mark)

/-- The text of a number; zero has no sign. -/
def text : Number → String
  | .nan => "NaN"
  | .infinite negative => if negative then "-Infinity" else "Infinity"
  | .finite negative m q =>
    if m = 0 then "0"
    else String.ofList ((if negative then ['-'] else []) ++ (shortest m q).text)

end Number
end ThingHost
