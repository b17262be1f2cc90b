import ThingHost.Text.Units

/-! UTF-8, read byte by byte. A sequence breaks off at the first byte that cannot continue it; what
    was read of it is one fault, and that byte starts anew. -/

namespace ThingHost
namespace Utf8

/-- A sequence that is not complete: the bits so far, how many bytes are owed, and the range of the
    next one. -/
structure Open where
  bits : Nat
  owed : Nat
  low : Nat
  high : Nat

/-- What a byte at the start of a sequence brings: a character, a fault, or an open sequence. -/
def start (b : Nat) : List (Option Char) × Option Open :=
  if b < 0x80 then ([some (Char.ofNat b)], none)
  else if 0xC2 ≤ b ∧ b ≤ 0xDF then ([], some ⟨b - 0xC0, 1, 0x80, 0xBF⟩)
  else if 0xE0 ≤ b ∧ b ≤ 0xEF then
    ([], some ⟨b - 0xE0, 2, if b = 0xE0 then 0xA0 else 0x80, if b = 0xED then 0x9F else 0xBF⟩)
  else if 0xF0 ≤ b ∧ b ≤ 0xF4 then
    ([], some ⟨b - 0xF0, 3, if b = 0xF0 then 0x90 else 0x80, if b = 0xF4 then 0x8F else 0xBF⟩)
  else ([none], none)

/-- What a byte brings inside or outside a sequence. -/
def step (b : Nat) : Option Open → List (Option Char) × Option Open
  | none => start b
  | some o =>
    if o.low ≤ b ∧ b ≤ o.high then
      let bits := o.bits * 64 + (b - 0x80)
      if o.owed = 1 then ([some (Char.ofNat bits)], none)
      else ([], some ⟨bits, o.owed - 1, 0x80, 0xBF⟩)
    else
      let (out, next) := start b
      (none :: out, next)

/-- The characters and faults of a byte sequence. -/
def scan (o : Option Open) : List Nat → List (Option Char)
  | [] => if o.isSome then [none] else []
  | b :: rest =>
    let (out, next) := step b o
    out ++ scan next rest

/-- The text of a byte sequence, with U+FFFD for every fault. -/
def decodeLossy (bytes : List Nat) : List Char := (scan none bytes).map (·.getD '\uFFFD')

/-- The text of a byte sequence without a fault. -/
def decode? (bytes : List Nat) : Option (List Char) := (scan none bytes).mapM id

/-- The bytes of a text. -/
def encode (text : List Char) : List Nat :=
  (String.ofList (text.map Text.scalar)).toUTF8.toList.map (·.toNat)

end Utf8
end ThingHost
