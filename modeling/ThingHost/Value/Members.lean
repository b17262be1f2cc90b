/-! The members of an object, in key order: the keys that are array indices come first, in ascending
    order, then the others in the order in which they were first put. Putting a key that is there
    already replaces its value and keeps its place. -/

namespace ThingHost

/-! ### Index keys -/

/-- The largest array index. -/
def maxIndex : Nat := 4294967294

/-- Reads a key that is the canonical decimal of an array index: no sign, no leading zero, no more
    than the largest index. -/
def indexKey? (key : String) : Option Nat :=
  let digits := key.toList
  if digits.isEmpty || 10 < digits.length || !digits.all Char.isDigit then none
  else if digits.head? = some '0' && digits.length != 1 then none
  else
    let n := digits.foldl (fun n d => n * 10 + (d.toNat - '0'.toNat)) 0
    if n ≤ maxIndex then some n else none

/-- A key stands before another by key order alone, whatever order they were put in. -/
def Precedes (a b : String) : Prop :=
  match indexKey? a, indexKey? b with
  | some i, some j => i < j
  | some _, none => True
  | none, _ => False

instance (a b : String) : Decidable (Precedes a b) := by
  unfold Precedes
  split <;> infer_instance

namespace Members

variable {α : Type}

/-- The one key that an object built member by member never gets: setting it sets no member. -/
def forbidden : String := "__proto__"

/-- The value under a key. -/
def get? (key : String) : List (String × α) → Option α
  | [] => none
  | (k, v) :: rest => if k = key then some v else get? key rest

/-- A key is there. -/
def has (key : String) (members : List (String × α)) : Bool := (get? key members).isSome

/-- Replaces the value of a key that is there. -/
def replace (key : String) (value : α) : List (String × α) → List (String × α)
  | [] => []
  | (k, v) :: rest => if k = key then (k, value) :: rest else (k, v) :: replace key value rest

/-- Puts a new key where key order has it: before the first key it precedes. -/
def insert (key : String) (value : α) : List (String × α) → List (String × α)
  | [] => [(key, value)]
  | (k, v) :: rest =>
    if Precedes key k then (key, value) :: (k, v) :: rest else (k, v) :: insert key value rest

/-- Sets the value of a key. -/
def put (key : String) (value : α) (members : List (String × α)) : List (String × α) :=
  if has key members then replace key value members else insert key value members

/-- Sets several members, one after another. -/
def putAll (members new : List (String × α)) : List (String × α) :=
  new.foldl (fun acc m => put m.1 m.2 acc) members

/-- The object that results from setting the given members one after another. -/
def ofList (members : List (String × α)) : List (String × α) := putAll [] members

/-- Everything but the given key. -/
def without (key : String) (members : List (String × α)) : List (String × α) :=
  members.filter fun m => m.1 ≠ key

def keys (members : List (String × α)) : List String := members.map (·.1)

/-- Distinct keys, in key order. -/
def InOrder (members : List (String × α)) : Prop :=
  (keys members).Nodup ∧ (keys members).Pairwise fun a b => ¬Precedes b a

end Members
end ThingHost
