import ThingHost.Url.Domain

/-! The host of a URL: an IPv6 address in brackets, an IPv4 address, or a name. The schemes that every
    browser knows take a domain name as host, all others any text without a reserved character. -/

namespace ThingHost
namespace Url

/-! ### IPv4 addresses -/

/-- A number in an IPv4 address: hexadecimal after 0x, octal after 0, else decimal. -/
def ipv4Number? : List Char → Option Nat
  | [] => none
  | ['0'] => some 0
  | '0' :: 'x' :: rest => Digits.read? 16 rest
  | '0' :: 'X' :: rest => Digits.read? 16 rest
  | '0' :: rest => Digits.read? 8 rest
  | digits => Digits.read? 10 digits

/-- The parts of a domain, without an empty one at the end. -/
def domainParts (domain : List Char) : List (List Char) :=
  let parts := Text.splitOn '.' domain
  if parts.getLast? = some [] ∧ 1 < parts.length then parts.dropLast else parts

/-- A domain whose last part is a number must be an IPv4 address. -/
def endsInNumber (domain : List Char) : Bool :=
  match (domainParts domain).getLast? with
  | none => false
  | some last => (!last.isEmpty && last.all Char.isDigit) || (ipv4Number? last).isSome

/-- Up to four numbers; all but the last are bytes, and the last fills the bytes that remain. -/
def isIpv4 (domain : List Char) : Bool :=
  let parts := domainParts domain
  if 4 < parts.length then false
  else
    match parts.mapM ipv4Number? with
    | none => false
    | some numbers =>
      numbers.dropLast.all (· ≤ 255) &&
        (numbers.getLast?.any (· < Nat.pow 256 (5 - numbers.length)))

/-! ### IPv6 addresses -/

/-- Four decimal bytes without leading zeros, at the end of an IPv6 address. -/
def isDottedQuad (text : List Char) : Bool :=
  let parts := Text.splitOn '.' text
  parts.length = 4 && parts.all fun part =>
    !part.isEmpty && part.all Char.isDigit && part.length ≤ 3 &&
      (part.length = 1 || part.head? != some '0') && (Digits.read? 10 part).any (· ≤ 255)

/-- A piece of one to four hexadecimal digits. -/
def isPiece (part : List Char) : Bool :=
  !part.isEmpty && part.length ≤ 4 && part.all fun c => (Digits.value? 16 c).isSome

/-- How many of the eight pieces a run of pieces separated by colons takes. Only where the run ends
    the address may its last piece be a dotted quad, which takes two. -/
def pieceCount? (atEnd : Bool) (text : List Char) : Option Nat :=
  if text.isEmpty then some 0
  else
    let parts := Text.splitOn ':' text
    match parts.getLast? with
    | none => none
    | some last =>
      if parts.all isPiece then some parts.length
      else if atEnd && parts.dropLast.all isPiece && isDottedQuad last then some (parts.length + 1)
      else none

/-- Splits a text at its first double colon. -/
def splitDoubleColon (reversed : List Char) : List Char → Option (List Char × List Char)
  | ':' :: ':' :: rest => some (reversed.reverse, rest)
  | c :: rest => splitDoubleColon (c :: reversed) rest
  | [] => none

/-- Eight pieces, or fewer around one double colon. -/
def isIpv6 (text : List Char) : Bool :=
  match splitDoubleColon [] text with
  | none => pieceCount? true text = some 8
  | some (before, after) =>
    match pieceCount? false before, pieceCount? true after with
    | some m, some n => m + n ≤ 7
    | _, _ => false

/-! ### Hosts -/

/-- Whether a text is a host. `special` says that the scheme takes a domain name. -/
def isHost (special : Bool) (text : List Char) : Bool :=
  match text with
  | '[' :: rest => rest.getLast? = some ']' && isIpv6 rest.dropLast
  | _ =>
    if special then
      match Domain.canonical? (Percent.decodeLossy text) with
      | none => false
      | some domain => !endsInNumber domain || isIpv4 domain
    else !text.any Domain.isForbiddenInHost

end Url
end ThingHost
