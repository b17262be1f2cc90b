import ThingHost.Text.Digits
import ThingHost.Text.Utf8

/-! Percent encoding: a percent sign and two hexadecimal digits stand for a byte. -/

namespace ThingHost
namespace Percent

/-- The bytes a text stands for; a percent sign without two digits stands for itself. -/
def bytes : List Char → List Nat
  | [] => []
  | '%' :: a :: b :: rest =>
    match Digits.read? 16 [a, b] with
    | some n => n :: bytes rest
    | none => 0x25 :: bytes (a :: b :: rest)
  | c :: rest => Utf8.encode [c] ++ bytes rest

/-- Every percent sign is followed by two digits. -/
def wellFormed : List Char → Bool
  | [] => true
  | '%' :: a :: b :: rest => (Digits.read? 16 [a, b]).isSome && wellFormed rest
  | '%' :: _ => false
  | _ :: rest => wellFormed rest

/-- The decoded text, with U+FFFD for bytes that are not UTF-8. -/
def decodeLossy (text : List Char) : List Char := Utf8.decodeLossy (bytes text)

/-- The decoded text, if the encoding is well-formed and its bytes are UTF-8. -/
def decode? (text : List Char) : Option (List Char) :=
  if wellFormed text then Utf8.decode? (bytes text) else none

/-- The text with the escapes of some ASCII characters escaped again, so that decoding leaves them. -/
def protect (isKept : Char → Bool) : List Char → List Char
  | [] => []
  | '%' :: a :: b :: rest =>
    match Digits.read? 16 [a, b] with
    | some n =>
      if n < 0x80 && isKept (Char.ofNat n) then '%' :: '2' :: '5' :: a :: b :: protect isKept rest
      else '%' :: a :: b :: protect isKept rest
    | none => '%' :: protect isKept (a :: b :: rest)
  | c :: rest => c :: protect isKept rest

/-- The text with every byte encoded of the characters that have to be. -/
def encode (mustEncode : Char → Bool) (text : List Char) : List Char :=
  text.flatMap fun c =>
    if mustEncode c then
      (Utf8.encode [c]).flatMap fun b => ['%', (Digits.hex (b / 16)).toUpper, (Digits.hex b).toUpper]
    else [c]

end Percent
end ThingHost
