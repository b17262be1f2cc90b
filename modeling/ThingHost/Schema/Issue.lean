import ThingHost.Value.Basic

/-! What is found wrong with a value, and where. -/

namespace ThingHost

/-- A step on the way to the part of a value that an issue is about. -/
inductive PathStep where
  | key (name : String)
  | index (n : Nat)
  deriving DecidableEq, Repr

def PathStep.toValue : PathStep → Value
  | .key name => .string name
  | .index n => .ofNat n

inductive IssueCause where
  /-- The value is missing, or of another type than the one expected. -/
  | wrongType (expected received : String)
  | tooShort (least : Nat)
  | tooLong (most : Nat)
  | notInteger
  | tooSmall (least : Int)
  | tooBig (most : Int)
  | notUrl
  | notAmong (words : String) (received : String)
  | nameTaken (name : String)
  | nameReserved (name : String)
  | valueRequired
  deriving DecidableEq, Repr

/-- One thing wrong with a value. -/
structure Issue where
  path : List PathStep
  cause : IssueCause
  deriving DecidableEq, Repr

def IssueCause.message : IssueCause → String
  | .wrongType expected received =>
    if received = "undefined" then "Required"
    else "Expected " ++ expected ++ ", received " ++ received
  | .tooShort least => "String must contain at least " ++ toString least ++ " character(s)"
  | .tooLong most => "String must contain at most " ++ toString most ++ " character(s)"
  | .notInteger => "Expected integer, received float"
  | .tooSmall least => "Number must be greater than or equal to " ++ toString least
  | .tooBig most => "Number must be less than or equal to " ++ toString most
  | .notUrl => "Invalid url"
  | .notAmong words received =>
    "Invalid enum value. Expected " ++ words ++ ", received '" ++ received ++ "'"
  | .nameTaken name => "Interaction name already used: " ++ name
  | .nameReserved name => "\"" ++ name ++ "\" is reserved for runtime notifications"
  | .valueRequired => "value is required"

namespace Issue

/-- The issue as seen from the value around it. -/
def under (step : PathStep) (i : Issue) : Issue := { i with path := step :: i.path }

def message (i : Issue) : String := i.cause.message

end Issue
end ThingHost
