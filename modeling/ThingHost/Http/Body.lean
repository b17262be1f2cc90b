import ThingHost.Http.Response
import ThingHost.Json.Reader
import ThingHost.Schema.Basic

/-! The bodies of requests: how they are read, and which ones a write and an invocation take. -/

namespace ThingHost
namespace Http

/-! ### Reading -/

/-- A member that no body may have: the key that no object built member by member gets, or a
    constructor with a prototype. -/
def isPoison (key : String) (v : Value) : Bool :=
  key = Members.forbidden || (key = "constructor" && (v.member? "prototype").isSome)

mutual

/-- Somewhere in the value an object has a member that no body may have. -/
def isPoisoned : Value → Bool
  | .array items => itemsPoisoned items
  | .object members => membersPoisoned members
  | _ => false

def itemsPoisoned : List Value → Bool
  | [] => false
  | v :: rest => isPoisoned v || itemsPoisoned rest

def membersPoisoned : List (String × Value) → Bool
  | [] => false
  | (k, v) :: rest => isPoison k v || isPoisoned v || membersPoisoned rest

end

/-- Why a body cannot be read. -/
inductive BodyFault where
  /-- Its type is no media type at all. -/
  | noType
  /-- Nobody here reads its type. -/
  | unknownType
  | emptyJson
  | notJson
  deriving DecidableEq, Repr

def BodyFault.response : BodyFault → Response
  | .emptyJson => badBody 400 "Bad Request" "FST_ERR_CTP_EMPTY_JSON_BODY"
      "Body cannot be empty when content-type is set to 'application/json'"
  | .notJson => badBody 400 "Bad Request" "FST_ERR_CTP_INVALID_JSON_BODY"
      "Body is not valid JSON but content-type is set to 'application/json'"
  | _ => badBody 415 "Unsupported Media Type" "FST_ERR_CTP_INVALID_MEDIA_TYPE" "Unsupported Media Type"

/-! ### Media types -/

/-- Characters of which the words of a media type are made. -/
def isTokenChar (c : Char) : Bool := c.isAlphanum || "!#$%&'*+-.^_\x60|~".contains c

def isToken (text : List Char) : Bool := !text.isEmpty && text.all isTokenChar

/-- The type and subtype that are given, in lower case and without parameters. Blanks may stand before
    and after both. -/
def mediaType? (contentType : String) : Option String :=
  let text := contentType.toList
  let type := (text.takeWhile (· ≠ '/')).dropWhile Number.isBlank
  let given := ((text.dropWhile (· ≠ '/')).drop 1).takeWhile (· ≠ ';')
  let subtype := (given.reverse.dropWhile Number.isBlank).reverse
  if text.contains '/' && isToken type && isToken subtype then
    some (String.ofList ((type ++ '/' :: subtype).map Char.toLower))
  else none

/-! ### Values -/

/-- The value of a JSON text, which may have a byte order mark at its start. -/
def jsonValue (text : String) : Except BodyFault Value :=
  if text.isEmpty then .error .emptyJson
  else
    let chars := text.toList
    match Json.read? (String.ofList (if chars.head? = some '\uFEFF' then chars.drop 1 else chars)) with
    | some v => if isPoisoned v then .error .notJson else .ok v
    | none => .error .notJson

/-- The value of a body. -/
def bodyValue : Body → Except BodyFault Value
  | .none => .ok .undefined
  | .text contentType text =>
    let sent := text.map Text.scalar
    match mediaType? contentType with
    | none => .error .noType
    | some "application/json" => jsonValue sent
    | some "text/plain" => .ok (.string sent)
    | some _ => .error .unknownType

/-! ### What is taken -/

/-- The body of a write has a value, whatever it is. -/
def writeSchema : Schema :=
  .lawful (.shape [("value", .unknown)]) fun v =>
    if (v.member? "value").isSome then [] else [⟨[], .valueRequired⟩]

/-- The body of an invocation may have arguments. -/
def invokeSchema : Schema :=
  .withDefault (.shape [("args", .withDefault (.list .unknown) (.array []))]) (.object [])

/-- The arguments that an invocation's body gives. -/
def argumentsOf (body : Value) : List Value := body.items "args"

end Http
end ThingHost
