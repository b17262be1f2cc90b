/-! Punycode: the spelling of a label of other scripts in ASCII. The plain characters come first, then,
    after the last dash, the others as one number each, in ascending order of the characters: how many
    steps of position and character it lies behind the one before. -/

namespace ThingHost
namespace Punycode

/-- The digits are a to z, then 0 to 9. -/
def digit? (c : Char) : Option Nat :=
  if 'a' ≤ c ∧ c ≤ 'z' then some (c.toNat - 'a'.toNat)
  else if 'A' ≤ c ∧ c ≤ 'Z' then some (c.toNat - 'A'.toNat)
  else if c.isDigit then some (c.toNat - '0'.toNat + 26)
  else none

/-- The least digit that continues a number at a position. -/
def threshold (position bias : Nat) : Nat := min 26 (max 1 (position - bias))

/-- Divides by 35 until the rest is small. -/
def reduce : Nat → Nat → Nat → Nat × Nat
  | 0, delta, k => (delta, k)
  | fuel + 1, delta, k => if 455 < delta then reduce fuel (delta / 35) (k + 36) else (delta, k)

/-- The bias after a number, from its size and how many characters there are now. -/
def adapt (delta count : Nat) (first : Bool) : Nat :=
  let scaled := if first then delta / 700 else delta / 2
  let (delta, k) := reduce 16 (scaled + scaled / count) 0
  k + 36 * delta / (delta + 38)

/-- A label that is read up to somewhere inside a number. -/
structure Reading where
  /-- The characters so far. -/
  out : List Nat
  /-- The next character is at least this. -/
  char : Nat
  /-- Where the last character was put. -/
  start : Nat
  bias : Nat
  /-- The number so far, the place value and the position of its next digit. -/
  number : Nat
  weight : Nat
  position : Nat

/-- Puts the character that a complete number stands for. -/
def Reading.put (r : Reading) (number : Nat) : Reading :=
  let count := r.out.length + 1
  let char := r.char + number / count
  let place := number % count
  { out := r.out.take place ++ char :: r.out.drop place
    char
    start := place + 1
    bias := adapt (number - r.start) count (r.start = 0)
    number := place + 1
    weight := 1
    position := 36 }

/-- Reads digits; a label ends between two numbers. -/
def readDigits (r : Reading) (inside : Bool) : List Char → Option (List Nat)
  | [] => if inside then none else some r.out
  | c :: rest =>
    match digit? c with
    | none => none
    | some d =>
      let t := threshold r.position r.bias
      let number := r.number + d * r.weight
      if d < t then readDigits (r.put number) false rest
      else
        readDigits { r with number, weight := r.weight * (36 - t), position := r.position + 36 } true rest

/-- The characters of a label without its mark. -/
def decode? (label : List Char) : Option (List Nat) :=
  let tail := (label.reverse.takeWhile (· ≠ '-')).reverse
  let plain := (label.take (label.length - tail.length)).dropLast
  readDigits ⟨plain.map Char.toNat, 128, 0, 72, 0, 1, 36⟩ false tail

end Punycode
end ThingHost
