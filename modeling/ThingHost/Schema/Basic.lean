import ThingHost.Number.Reading
import ThingHost.Schema.Issue
import ThingHost.Text.Units
import ThingHost.Url.Basic

/-! Schemas: descriptions of the values that are accepted. Checking a value finds everything wrong with
    it, and yields the value in the schema's own form: members the schema does not know are dropped,
    defaults are filled in. A value of the wrong type yields nothing; a text that is too long, or a
    number out of range, still yields itself beside its issue. -/

namespace ThingHost

/-- A limit on a text; lengths count UTF-16 code units. -/
inductive TextLimit where
  | least (n : Nat)
  | most (n : Nat)
  | url
  deriving DecidableEq, Repr

def TextLimit.check (s : String) : TextLimit → List Issue
  | .least n => if Text.length s < n then [⟨[], .tooShort n⟩] else []
  | .most n => if n < Text.length s then [⟨[], .tooLong n⟩] else []
  | .url => if Url.isUrl s then [] else [⟨[], .notUrl⟩]

inductive Schema where
  /-- Any value at all. -/
  | unknown
  | text (limits : List TextLimit)
  | flag
  /-- One of some words. -/
  | word (words : List String)
  /-- An integer in a range, from a number or from whatever stands for one. -/
  | integer (least most : Int)
  /-- An object whose keys are texts and whose values are all alike. The key that no object built
      member by member gets is dropped. -/
  | record (key : List TextLimit) (item : Schema)
  | list (item : Schema)
  /-- An object with the given members. -/
  | shape (fields : List (String × Schema))
  | optional (inner : Schema)
  | withDefault (inner : Schema) (default : Value)
  /-- A schema with a further law on the values it yields. -/
  | lawful (inner : Schema) (law : Value → List Issue)

/-- What checking a value yields: every issue, and the value in the schema's form unless some part of
    it has the wrong type. -/
structure Report where
  issues : List Issue
  result : Option Value

namespace Report

def ok (v : Value) : Report := ⟨[], some v⟩

def under (step : PathStep) (r : Report) : Report := { r with issues := r.issues.map (·.under step) }

/-- Accepted: nothing is wrong. -/
def accepted (r : Report) : Bool := r.issues.isEmpty && r.result.isSome

/-- The value of a report without issues, else the issues. -/
def toExcept (r : Report) : Except (List Issue) Value :=
  match r.issues, r.result with
  | [], some v => .ok v
  | issues, _ => .error issues

end Report

namespace Schema

def wrongType (expected : String) (v : Value) : Report :=
  ⟨[⟨[], .wrongType expected v.typeName⟩], none⟩

/-! ### Plain values -/

def checkText (limits : List TextLimit) : Value → Report
  | .string s => ⟨limits.flatMap (TextLimit.check s), some (.string s)⟩
  | v => wrongType "string" v

def checkFlag : Value → Report
  | .bool b => .ok (.bool b)
  | v => wrongType "boolean" v

/-- The words as a list of choices. -/
def choices (words : List String) : String :=
  String.intercalate " | " (words.map fun w => "'" ++ w ++ "'")

def checkWord (words : List String) : Value → Report
  | .string s =>
    if words.contains s then .ok (.string s) else ⟨[⟨[], .notAmong (choices words) s⟩], none⟩
  | v => wrongType (choices words) v

/-- The number that a value stands for. -/
def toNumber : Value → Number
  | .undefined => .nan
  | .null => .zero false
  | .bool b => .ofNat (if b then 1 else 0)
  | .number x => x
  | .bigint n => .ofInt n
  | v => .read v.plainText

def checkInteger (least most : Int) (v : Value) : Report :=
  match toNumber v with
  | .nan => wrongType "number" (.number .nan)
  | x =>
    ⟨(if x.toInt?.isSome then [] else [⟨[], .notInteger⟩]) ++
      (if x.below least then [⟨[], .tooSmall least⟩] else []) ++
      (if x.above most then [⟨[], .tooBig most⟩] else []), some (.number x)⟩

/-! ### Compound values -/

/-- An array of the elements' reports. -/
def gatherItems (n : Nat) : List Report → List Issue × Option (List Value)
  | [] => ([], some [])
  | r :: rest =>
    let (issues, items) := gatherItems (n + 1) rest
    ((r.under (.index n)).issues ++ issues, r.result.bind fun v => items.map (v :: ·))

def ofItems (reports : List Report) : Report :=
  let (issues, items) := gatherItems 0 reports
  ⟨issues, items.map .array⟩

/-- The members whose reports yield a value, with their issues. -/
def gatherMembers : List (String × Report) → List Issue × Option Fields
  | [] => ([], some [])
  | (k, r) :: rest =>
    let (issues, members) := gatherMembers rest
    ((r.under (.key k)).issues ++ issues, r.result.bind fun v => members.map ((k, v) :: ·))

/-- The report on a member of a record: the key's issues come before the value's. -/
def withKey (limits : List TextLimit) (key : String) (r : Report) : Report :=
  { r with issues := (checkText limits (.string key)).issues ++ r.issues }

/-- A record of the members' reports. -/
def ofRecord (reports : List (String × Report)) : Report :=
  let (issues, members) := gatherMembers reports
  ⟨issues, members.map fun m => .object (Members.without Members.forbidden m)⟩

/-- A shape of the fields' reports, in the shape's order. A field is left out if it is undefined and
    the given object does not have it. -/
def ofShape (given : Fields) (reports : List (String × Report)) : Report :=
  let (issues, members) := gatherMembers reports
  ⟨issues, members.map fun m => .object (m.filter fun (k, v) => !v.isUndefined || Members.has k given)⟩

mutual

def check : Schema → Value → Report
  | .unknown, v => .ok v
  | .text limits, v => checkText limits v
  | .flag, v => checkFlag v
  | .word words, v => checkWord words v
  | .integer least most, v => checkInteger least most v
  | .record key item, v =>
    match v with
    | .object members => ofRecord (members.map fun (k, v) => (k, withKey key k (check item v)))
    | v => wrongType "object" v
  | .list item, v =>
    match v with
    | .array items => ofItems (items.map fun v => check item v)
    | v => wrongType "array" v
  | .shape fields, v =>
    match v with
    | .object members => ofShape members (checkFields fields members)
    | v => wrongType "object" v
  | .optional inner, v => if v.isUndefined then .ok .undefined else check inner v
  | .withDefault inner default, v => check inner (if v.isUndefined then default else v)
  | .lawful inner law, v =>
    let r := check inner v
    match r.result with
    | some w => { r with issues := r.issues ++ law w }
    | none => r

def checkFields : List (String × Schema) → Fields → List (String × Report)
  | [], _ => []
  | (k, s) :: rest, given =>
    (k, check s ((Members.get? k given).getD .undefined)) :: checkFields rest given

end

/-- The value in the schema's form, or everything that is wrong with it. -/
def parse (s : Schema) (v : Value) : Except (List Issue) Value := (check s v).toExcept

end Schema
end ThingHost
