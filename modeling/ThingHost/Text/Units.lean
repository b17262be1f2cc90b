/-! Text in UTF-16 code units: a character outside the basic plane takes two, a surrogate pair.

    Text that comes as units, such as the escapes of JSON, can hold half of a pair, which is no
    character. A half is kept as a character of the last private-use plane, which then stands for the
    half and never for itself. -/

namespace ThingHost
namespace Text

/-! ### Halves of pairs -/

/-- The first of the characters that stand for halves. -/
def firstHalf : Nat := 0x10F000

/-- The unit is half of a pair. -/
def isSurrogate (unit : Nat) : Bool := 0xD800 ≤ unit && unit < 0xE000

/-- The first half of a pair. -/
def isLeading (unit : Nat) : Bool := 0xD800 ≤ unit && unit < 0xDC00

/-- The second half of a pair. -/
def isTrailing (unit : Nat) : Bool := 0xDC00 ≤ unit && unit < 0xE000

/-- The character that a unit on its own is, or stands for. -/
def ofUnit (unit : Nat) : Char :=
  if isSurrogate unit then Char.ofNat (firstHalf + (unit - 0xD800)) else Char.ofNat unit

/-- The character that a pair is. -/
def ofPair (leading trailing : Nat) : Char :=
  Char.ofNat (0x10000 + (leading - 0xD800) * 0x400 + (trailing - 0xDC00))

/-- The half that a character stands for. -/
def half? (c : Char) : Option Nat :=
  if firstHalf ≤ c.toNat && c.toNat < firstHalf + 0x800 then some (0xD800 + (c.toNat - firstHalf))
  else none

/-- The character as it is sent or stored: halves of pairs are replaced. -/
def scalar (c : Char) : Char := if (half? c).isSome then '\uFFFD' else c

/-! ### Units -/

/-- The units of a character. -/
def charUnits (c : Char) : List Nat :=
  match half? c with
  | some unit => [unit]
  | none =>
    if c.toNat < 0x10000 then [c.toNat]
    else [0xD800 + (c.toNat - 0x10000) / 0x400, 0xDC00 + (c.toNat - 0x10000) % 0x400]

/-- The units of a text. -/
def units (s : String) : List Nat := s.toList.flatMap charUnits

/-- The length of a text in units. -/
def length (s : String) : Nat := (units s).length

end Text
end ThingHost
