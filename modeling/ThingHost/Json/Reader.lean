import ThingHost.Text.Digits
import ThingHost.Text.Units
import ThingHost.Value.Basic

/-! Reading JSON text, as strictly as RFC 8259 asks: four kinds of blank, no trailing commas, no leading
    zeros, no control characters inside strings. The members of an object come out in key order, and of
    a repeated key the first place and the last value count. A number too large to hold reads as
    infinite. -/

namespace ThingHost
namespace Json

def isBlank (c : Char) : Bool := c = ' ' || c = '\t' || c = '\n' || c = '\r'

def skipBlanks (text : List Char) : List Char := text.dropWhile isBlank

/-! ### Strings -/

/-- What a single-letter escape stands for. -/
def unescape? (c : Char) : Option Char :=
  match c with
  | '"' => some '"'
  | '\\' => some '\\'
  | '/' => some '/'
  | 'b' => some '\x08'
  | 'f' => some '\x0c'
  | 'n' => some '\n'
  | 'r' => some '\r'
  | 't' => some '\t'
  | _ => none

/-- The characters read so far, with the first half of a pair that still waits for the second. -/
structure Scan where
  reversed : List Char
  leading : Option Nat

/-- The first half of a pair that gets no second stays a half. -/
def Scan.flush (p : Scan) : List Char :=
  match p.leading with
  | some unit => Text.ofUnit unit :: p.reversed
  | none => p.reversed

def Scan.push (p : Scan) (c : Char) : Scan := { reversed := c :: p.flush, leading := none }

/-- Takes one escaped UTF-16 unit. -/
def Scan.unit (p : Scan) (unit : Nat) : Scan :=
  if Text.isLeading unit then { reversed := p.flush, leading := some unit }
  else
    match p.leading, Text.isTrailing unit with
    | some first, true => { reversed := Text.ofPair first unit :: p.reversed, leading := none }
    | _, _ => p.push (Text.ofUnit unit)

/-- Reads the rest of a string, after its opening quote, and what follows it. -/
def readString (p : Scan) : List Char → Option (String × List Char)
  | [] => none
  | '"' :: rest => some (String.ofList p.flush.reverse, rest)
  | '\\' :: 'u' :: a :: b :: c :: d :: rest =>
    match Digits.read? 16 [a, b, c, d] with
    | some u => readString (p.unit u) rest
    | none => none
  | '\\' :: e :: rest =>
    match unescape? e with
    | some c => readString (p.push c) rest
    | none => none
  | c :: rest => if c = '\\' || c.toNat < 0x20 then none else readString (p.push c) rest

/-! ### Numbers -/

/-- The digits after a decimal point, if there is one. -/
def readFraction : List Char → Option (List Char × List Char)
  | '.' :: rest =>
    match Digits.span rest with
    | ([], _) => none
    | (digits, rest) => some (digits, rest)
  | rest => some ([], rest)

/-- The power of ten after an exponent mark, if there is one. -/
def readExponent : List Char → Option (Int × List Char)
  | c :: rest =>
    if c = 'e' || c = 'E' then
      let (negative, rest) :=
        match rest with
        | '-' :: rest => (true, rest)
        | '+' :: rest => (false, rest)
        | rest => (false, rest)
      match Digits.span rest with
      | ([], _) => none
      | (digits, rest) =>
        let n : Int := (Digits.read? 10 digits).getD 0
        some (if negative then -n else n, rest)
    else some (0, c :: rest)
  | [] => some (0, [])

/-- A number without its sign. -/
def readMagnitude (negative : Bool) (text : List Char) : Option (Number × List Char) := do
  let (whole, rest) := Digits.span text
  if whole.head? = some '0' && whole.length != 1 then none
  let _ ← Digits.readSome? 10 whole
  let (fraction, rest) ← readFraction rest
  let (power, rest) ← readExponent rest
  let digits ← Digits.read? 10 (whole ++ fraction)
  return (.ofDecimal negative digits (power - fraction.length), rest)

def readNumber : List Char → Option (Number × List Char)
  | '-' :: rest => readMagnitude true rest
  | text => readMagnitude false text

/-! ### Values -/

mutual

/-- Reads a value and what follows it. Every level of nesting takes a character, so the length of the
    text bounds `depth`. -/
def readValue : Nat → List Char → Option (Value × List Char)
  | 0, _ => none
  | depth + 1, text =>
    match skipBlanks text with
    | 'n' :: 'u' :: 'l' :: 'l' :: rest => some (.null, rest)
    | 't' :: 'r' :: 'u' :: 'e' :: rest => some (.bool true, rest)
    | 'f' :: 'a' :: 'l' :: 's' :: 'e' :: rest => some (.bool false, rest)
    | '"' :: rest => (readString ⟨[], none⟩ rest).map fun (s, rest) => (.string s, rest)
    | '[' :: rest =>
      match skipBlanks rest with
      | ']' :: rest => some (.array [], rest)
      | _ => (readItems depth [] rest).map fun (items, rest) => (.array items, rest)
    | '{' :: rest =>
      match skipBlanks rest with
      | '}' :: rest => some (.object [], rest)
      | _ => (readMembers depth [] rest).map fun (members, rest) =>
          (.object (Members.ofList members), rest)
    | text => (readNumber text).map fun (x, rest) => (.number x, rest)

/-- Reads the elements of an array up to its closing bracket; those before are held in reverse. -/
def readItems : Nat → List Value → List Char → Option (List Value × List Char)
  | 0, _, _ => none
  | depth + 1, reversed, text =>
    match readValue depth text with
    | none => none
    | some (v, rest) =>
      match skipBlanks rest with
      | ',' :: rest => readItems depth (v :: reversed) rest
      | ']' :: rest => some ((v :: reversed).reverse, rest)
      | _ => none

/-- Reads the members of an object up to its closing brace; those before are held in reverse. -/
def readMembers : Nat → List (String × Value) → List Char → Option (List (String × Value) × List Char)
  | 0, _, _ => none
  | depth + 1, reversed, text =>
    match skipBlanks text with
    | '"' :: rest =>
      match readString ⟨[], none⟩ rest with
      | none => none
      | some (key, rest) =>
        match skipBlanks rest with
        | ':' :: rest =>
          match readValue depth rest with
          | none => none
          | some (v, rest) =>
            match skipBlanks rest with
            | ',' :: rest => readMembers depth ((key, v) :: reversed) rest
            | '}' :: rest => some (((key, v) :: reversed).reverse, rest)
            | _ => none
        | _ => none
    | _ => none

end

/-- The value that a whole text stands for. -/
def read? (text : String) : Option Value :=
  let cs := text.toList
  match readValue (cs.length + 1) cs with
  | some (v, rest) => if (skipBlanks rest).isEmpty then some v else none
  | none => none

end Json
end ThingHost
