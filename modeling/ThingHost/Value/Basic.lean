import ThingHost.Number.Shortest
import ThingHost.Text.Units
import ThingHost.Value.Members

/-! The values that Things exchange: property values, payloads, arguments, data descriptions. They are
    plain data; absence is a value of its own, apart from null. -/

namespace ThingHost

inductive Value where
  | undefined
  | null
  | bool (b : Bool)
  | number (x : Number)
  | bigint (n : Int)
  | string (s : String)
  | array (items : List Value)
  | object (members : List (String × Value))
  deriving Repr, Inhabited

/-- The members of an object, in key order. -/
abbrev Fields := List (String × Value)

namespace Value

/-- What kind of value this is, as a wrong type is reported. -/
def typeName : Value → String
  | .undefined => "undefined"
  | .null => "null"
  | .bool _ => "boolean"
  | .number .nan => "nan"
  | .number _ => "number"
  | .bigint _ => "bigint"
  | .string _ => "string"
  | .array _ => "array"
  | .object _ => "object"

def isUndefined : Value → Bool
  | .undefined => true
  | _ => false

/-- As good as nothing: no value, a false, zero or empty one. -/
def isVoid : Value → Bool
  | .undefined => true
  | .null => true
  | .bool b => !b
  | .number .nan => true
  | .number (.infinite _) => false
  | .number (.finite _ m _) => m = 0
  | .bigint n => n = 0
  | .string s => s = ""
  | .array _ => false
  | .object _ => false

/-- The same plain value. Two arrays or objects are never taken for the same. -/
def same : Value → Value → Bool
  | .undefined, .undefined => true
  | .null, .null => true
  | .bool a, .bool b => a = b
  | .number x, .number y => x.equals y
  | .bigint m, .bigint n => m = n
  | .string s, .string t => s = t
  | _, _ => false

/-- The value, with null in place of undefined. -/
def orNull : Value → Value
  | .undefined => .null
  | v => v

/-- The member of an object under a key; other values have no members. -/
def member? (key : String) : Value → Option Value
  | .object members => Members.get? key members
  | _ => none

/-- The member of an object under a key, undefined where there is none. -/
def member (key : String) (v : Value) : Value := (v.member? key).getD .undefined

/-- The members of an object; any other value has none. -/
def fields : Value → Fields
  | .object members => members
  | _ => []

/-- The text that the value is, if it is one. -/
def asText? : Value → Option String
  | .string s => some s
  | _ => none

/-- The text under a key, if there is one. -/
def text? (key : String) (v : Value) : Option String := (v.member key).asText?

/-- The object under a key, if there is one. -/
def data? (key : String) (v : Value) : Option Fields :=
  match v.member key with
  | .object members => some members
  | _ => none

/-- The array under a key; no elements if there is none. -/
def items (key : String) (v : Value) : List Value :=
  match v.member key with
  | .array items => items
  | _ => []

/-- The flag under a key, if there is one. -/
def flag? (key : String) (v : Value) : Option Bool :=
  match v.member key with
  | .bool b => some b
  | _ => none

/-- The members that a value lends to an object: those of an object, or the elements of an array or
    the UTF-16 units of a text under their positions. -/
def spread : Value → Fields
  | .object members => members
  | .array items => items.zipIdx.map fun (v, n) => (toString n, v)
  | .string s =>
    (Text.units s).zipIdx.map fun (unit, n) => (toString n, .string (String.singleton (Text.ofUnit unit)))
  | _ => []

/-- An object from members in any order. -/
def ofMembers (members : Fields) : Value := .object (Members.ofList members)

/-- A member that is left out when there is nothing to put. -/
def optional (key : String) : Option Value → Fields
  | none => []
  | some v => [(key, v)]

def ofNat (n : Nat) : Value := .number (.ofNat n)

def ofInt (n : Int) : Value := .number (.ofInt n)

/-! ### Well-formed values -/

mutual

/-- Every object in the value has distinct keys in key order, and every number is canonical. -/
def WellFormed : Value → Prop
  | .number x => x.Canonical
  | .array items => WellFormedItems items
  | .object members => Members.InOrder members ∧ WellFormedMembers members
  | _ => True

def WellFormedItems : List Value → Prop
  | [] => True
  | v :: rest => WellFormed v ∧ WellFormedItems rest

def WellFormedMembers : List (String × Value) → Prop
  | [] => True
  | (_, v) :: rest => WellFormed v ∧ WellFormedMembers rest

end

/-! ### Plain text -/

mutual

/-- The value has a plain text. An object with a member `toString` of its own has none. -/
def hasText : Value → Bool
  | .array items => allHaveText items
  | .object members => !Members.has "toString" members
  | _ => true

def allHaveText : List Value → Bool
  | [] => true
  | v :: rest => hasText v && allHaveText rest

end

mutual

/-- The text of a value inside a sentence: the elements of an array are joined by commas, with nothing
    in place of null and undefined, and an object has one text for all its members. -/
def plainText : Value → String
  | .undefined => "undefined"
  | .null => "null"
  | .bool b => if b then "true" else "false"
  | .number x => x.text
  | .bigint n => toString n
  | .string s => s
  | .array items => plainItems items
  | .object _ => "[object Object]"

def plainItems : List Value → String
  | [] => ""
  | [v] => plainItem v
  | v :: rest => plainItem v ++ "," ++ plainItems rest

def plainItem : Value → String
  | .undefined => ""
  | .null => ""
  | .bool b => if b then "true" else "false"
  | .number x => x.text
  | .bigint n => toString n
  | .string s => s
  | .array items => plainItems items
  | .object _ => "[object Object]"

end

end Value
end ThingHost
