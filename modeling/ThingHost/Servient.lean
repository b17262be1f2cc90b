import ThingHost.Error

/-! A servient: the Things it has registered, and which of them are enabled. Things are known by their
    number; their ids are what they are registered under. -/

namespace ThingHost

structure Servient where
  /-- The registered Things, in the order of registration. -/
  registered : List (String × Nat)
  enabled : List String
  deriving DecidableEq, Repr

namespace Servient

def empty : Servient := ⟨[], []⟩

/-- The Thing registered under an id. -/
def get? (s : Servient) (id : String) : Option Nat := (s.registered.find? (·.1 = id)).map (·.2)

def has (s : Servient) (id : String) : Bool := (s.get? id).isSome

def isEnabled (s : Servient) (id : String) : Bool := s.enabled.contains id

/-- The registered Things that are enabled, in the order of registration. -/
def enabledThings (s : Servient) : List (String × Nat) :=
  s.registered.filter fun (id, _) => s.isEnabled id

/-- The id, if a Thing is registered under it. -/
def require (s : Servient) : Value → Except ThingError String
  | .string id => if s.has id then .ok id else .error (.thingNotFound (.string id))
  | id => .error (.thingNotFound id)

def register (s : Servient) (id : String) (thing : Nat) : Except ThingError Servient :=
  if s.has id then .error (.duplicateThing id)
  else .ok { s with registered := s.registered ++ [(id, thing)] }

def enable (s : Servient) (id : Value) : Except ThingError Servient := do
  let id ← s.require id
  return if s.isEnabled id then s else { s with enabled := s.enabled ++ [id] }

def disable (s : Servient) (id : Value) : Except ThingError Servient := do
  let id ← s.require id
  return { s with enabled := s.enabled.filter (· ≠ id) }

def remove (s : Servient) (id : Value) : Except ThingError Servient := do
  let id ← s.require id
  return { registered := s.registered.filter (·.1 ≠ id), enabled := s.enabled.filter (· ≠ id) }

end Servient
end ThingHost
