import ThingHost.Value.Basic

/-! The interactions a Thing declares: properties that are read and written, actions that are invoked,
    events that are emitted. -/

namespace ThingHost

inductive InteractionKind where
  | property
  | action
  | event
  deriving DecidableEq, Repr

namespace InteractionKind

/-- The word for a kind in events and records. -/
def name : InteractionKind → String
  | .property => "property"
  | .action => "action"
  | .event => "event"

/-- The word for a kind at the start of a sentence. -/
def label : InteractionKind → String
  | .property => "Property"
  | .action => "Action"
  | .event => "Event"

/-- Properties, actions and events, in this order. -/
def all : List InteractionKind := [property, action, event]

def ofName? (s : String) : Option InteractionKind :=
  all.find? (·.name = s)

end InteractionKind

/-- What an interaction of each kind offers. A data description is an object that describes a value; it
    is kept as it is. -/
inductive Affordance where
  | property (schema : Fields) (writable observable : Bool)
  | action (input output : Option Fields)
  | event (data : Option Fields)
  deriving Repr

def Affordance.kind : Affordance → InteractionKind
  | .property .. => .property
  | .action .. => .action
  | .event .. => .event

/-- A declared interaction. Two interactions are the same only if they have the same `serial`, which
    is given out once: an interaction that is removed and declared again under its old name is another
    one, with no value and no handler left from the first. -/
structure Interaction where
  serial : Nat
  name : String
  label : Option String
  affordance : Affordance
  deriving Repr

namespace Interaction

def kind (i : Interaction) : InteractionKind := i.affordance.kind

/-- May be written, if it is a property. -/
def writable (i : Interaction) : Bool :=
  match i.affordance with
  | .property _ writable _ => writable
  | _ => false

/-- May be observed, if it is a property. -/
def observable (i : Interaction) : Bool :=
  match i.affordance with
  | .property _ _ observable => observable
  | _ => false

/-- An interaction as a value. -/
def toValue (i : Interaction) : Value :=
  let label := Value.optional "label" (i.label.map .string)
  let common := ("kind", .string i.kind.name) :: ("name", .string i.name) :: label
  match i.affordance with
  | .property schema writable observable =>
    .ofMembers (common ++
      [("schema", .object schema), ("writable", .bool writable), ("observable", .bool observable)])
  | .action input output =>
    .ofMembers (common ++ Value.optional "input" (input.map .object) ++
      Value.optional "output" (output.map .object))
  | .event data => .ofMembers (common ++ Value.optional "data" (data.map .object))

end Interaction
end ThingHost
