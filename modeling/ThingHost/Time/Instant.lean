import ThingHost.Number.Basic

/-! Points in time, as milliseconds since the start of 1970 in universal time, and their text. -/

namespace ThingHost
namespace Instant

/-- The largest distance from the start of 1970 that a date can have. -/
def maxDistance : Nat := 8640000000000000

def isValid (ms : Int) : Bool := ms.natAbs ≤ maxDistance

/-- A time that no date has. -/
def never : Int := (maxDistance : Int) + 1

/-- The time that a number of milliseconds is, without parts of a millisecond. -/
def ofNumber (ms : Number) : Int := ms.truncated?.getD never

/-- The date of a day counted from the start of 1970: year, month and day of the month. Eras of 400
    years have 146097 days, and years are counted from March so that a leap day comes last. -/
def civil (day : Int) : Int × Nat × Nat :=
  let z := day + 719468
  let era := z.fdiv 146097
  let doe := (z - era * 146097).toNat
  let yoe := (doe - doe / 1460 + doe / 36524 - doe / 146096) / 365
  let doy := doe - (365 * yoe + yoe / 4 - yoe / 100)
  let mp := (5 * doy + 2) / 153
  let d := doy - (153 * mp + 2) / 5 + 1
  let m := if mp < 10 then mp + 3 else mp - 9
  let y : Int := (yoe : Int) + era * 400
  (if m ≤ 2 then y + 1 else y, m, d)

/-- A number with at least `width` digits. -/
def padded (width n : Nat) : String :=
  let digits := Nat.toDigits 10 n
  String.ofList (List.replicate (width - digits.length) '0' ++ digits)

/-- Years outside of 0 to 9999 have a sign and six digits. -/
def yearText (y : Int) : String :=
  if 0 ≤ y ∧ y ≤ 9999 then padded 4 y.toNat
  else (if y < 0 then "-" else "+") ++ padded 6 y.natAbs

/-- The text of a time: date, time of day to the millisecond, and the mark of universal time. -/
def text (ms : Int) : String :=
  let day := ms.fdiv 86400000
  let rest := (ms - day * 86400000).toNat
  let (y, m, d) := civil day
  yearText y ++ "-" ++ padded 2 m ++ "-" ++ padded 2 d ++ "T" ++ padded 2 (rest / 3600000) ++ ":" ++
    padded 2 (rest / 60000 % 60) ++ ":" ++ padded 2 (rest / 1000 % 60) ++ "." ++
    padded 3 (rest % 1000) ++ "Z"

end Instant
end ThingHost
