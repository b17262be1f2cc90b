import ThingHost.Text.Digits
import ThingHost.Text.Units
import ThingHost.Value.Basic

/-! JSON text of a value, without spaces. A member whose value is undefined is left out; undefined in an
    array, and a number that is not finite, is written null. A big integer has no JSON text. -/

namespace ThingHost
namespace Json

/-! ### Strings -/

/-- A UTF-16 unit as an escape. -/
def escapeUnit (unit : Nat) : List Char :=
  ['\\', 'u', Digits.hex (unit / 4096), Digits.hex (unit / 256), Digits.hex (unit / 16), Digits.hex unit]

/-- One character between the quotes: the quote, the backslash, the control characters and halves of
    pairs are escaped, everything else stands for itself. -/
def escapeChar (c : Char) : List Char :=
  if c = '"' then ['\\', '"']
  else if c = '\\' then ['\\', '\\']
  else if c = '\x08' then ['\\', 'b']
  else if c = '\x0c' then ['\\', 'f']
  else if c = '\n' then ['\\', 'n']
  else if c = '\r' then ['\\', 'r']
  else if c = '\t' then ['\\', 't']
  else if c.toNat < 0x20 then escapeUnit c.toNat
  else
    match Text.half? c with
    | some unit => escapeUnit unit
    | none => [c]

def quote (s : String) : List Char := '"' :: (s.toList.flatMap escapeChar ++ ['"'])

/-! ### Values -/

def numberText (x : Number) : List Char :=
  match x with
  | .finite .. => x.text.toList
  | _ => ['n', 'u', 'l', 'l']

mutual

/-- The characters of a value's text. -/
def chars : Value → List Char
  | .undefined => ['n', 'u', 'l', 'l']
  | .null => ['n', 'u', 'l', 'l']
  | .bool true => ['t', 'r', 'u', 'e']
  | .bool false => ['f', 'a', 'l', 's', 'e']
  | .number x => numberText x
  | .bigint n => (toString n).toList
  | .string s => quote s
  | .array items => '[' :: (itemChars items ++ [']'])
  | .object members => '{' :: (memberChars members ++ ['}'])

/-- The elements of an array, with commas between them. -/
def itemChars : List Value → List Char
  | [] => []
  | [v] => chars v
  | v :: rest => chars v ++ ',' :: itemChars rest

/-- The members of an object that are not undefined, with commas between them. -/
def memberChars : List (String × Value) → List Char
  | [] => []
  | (k, v) :: rest =>
    if v.isUndefined then memberChars rest
    else
      let text := quote k ++ ':' :: chars v
      match memberChars rest with
      | [] => text
      | more => text ++ ',' :: more

end

/-- The text of a value that holds no big integer. -/
def write (v : Value) : String := String.ofList (chars v)

/-! ### What has JSON text -/

mutual

/-- Somewhere in the value there is a big integer. -/
def holdsBigint : Value → Bool
  | .bigint _ => true
  | .array items => itemsHoldBigint items
  | .object members => membersHoldBigint members
  | _ => false

def itemsHoldBigint : List Value → Bool
  | [] => false
  | v :: rest => holdsBigint v || itemsHoldBigint rest

def membersHoldBigint : List (String × Value) → Bool
  | [] => false
  | (_, v) :: rest => holdsBigint v || membersHoldBigint rest

end

/-- The text of a value, if it has one. -/
def write? (v : Value) : Option String := if holdsBigint v then none else some (write v)

end Json
end ThingHost
