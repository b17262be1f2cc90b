import ThingHost.Number.Basic
import ThingHost.Text.Digits
import ThingHost.Text.Split

/-! The number that a text stands for, as lenient as a setting needs: blanks around it do not count,
    nothing at all is zero, hexadecimal, octal and binary integers have their marks, and a decimal may
    lack the digits on one side of its point. -/

namespace ThingHost
namespace Number

/-- White space and line ends, with the byte order mark among them. -/
def isBlank (c : Char) : Bool :=
  let n := c.toNat
  (0x09 ≤ n && n ≤ 0x0D) || n = 0x20 || n = 0xA0 || n = 0x1680 || (0x2000 ≤ n && n ≤ 0x200A) ||
    n = 0x2028 || n = 0x2029 || n = 0x202F || n = 0x205F || n = 0x3000 || n = 0xFEFF

/-- The power of ten after an exponent mark. -/
def readPower? : List Char → Option Int
  | [] => some 0
  | mark :: rest =>
    if mark = 'e' || mark = 'E' then
      match rest with
      | '-' :: digits => (Digits.readSome? 10 digits).map fun n => -(n : Int)
      | '+' :: digits => (Digits.readSome? 10 digits).map fun n => (n : Int)
      | digits => (Digits.readSome? 10 digits).map fun n => (n : Int)
    else none

/-- A decimal without its sign. -/
def readDecimal? (negative : Bool) (text : List Char) : Option Number :=
  if text = "Infinity".toList then some (.infinite negative)
  else
    let (whole, rest) := Digits.span text
    let (fraction, rest) :=
      match rest with
      | '.' :: rest => Digits.span rest
      | rest => ([], rest)
    match Digits.readSome? 10 (whole ++ fraction), readPower? rest with
    | some digits, some power => some (.ofDecimal negative digits (power - fraction.length))
    | _, _ => none

/-- The number of a text without blanks around it. -/
def readTrimmed? : List Char → Option Number
  | [] => some (zero false)
  | '0' :: 'x' :: digits => (Digits.readSome? 16 digits).map ofNat
  | '0' :: 'X' :: digits => (Digits.readSome? 16 digits).map ofNat
  | '0' :: 'o' :: digits => (Digits.readSome? 8 digits).map ofNat
  | '0' :: 'O' :: digits => (Digits.readSome? 8 digits).map ofNat
  | '0' :: 'b' :: digits => (Digits.readSome? 2 digits).map ofNat
  | '0' :: 'B' :: digits => (Digits.readSome? 2 digits).map ofNat
  | '-' :: text => readDecimal? true text
  | '+' :: text => readDecimal? false text
  | text => readDecimal? false text

/-- The number a text stands for; NaN if none. -/
def read (text : String) : Number := (readTrimmed? (Text.trim isBlank text.toList)).getD .nan

end Number
end ThingHost
