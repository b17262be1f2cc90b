import ThingHost.Error

/-! What a host writes to its log. -/

namespace ThingHost

inductive Level where
  | debug
  | info
  | warn
  deriving DecidableEq, Repr

def Level.name : Level → String
  | .debug => "debug"
  | .info => "info"
  | .warn => "warn"

/-- The channel that relays post to. -/
def relayChannel : String := "thing_events"

/-- Something worth a line in the log. -/
inductive Note where
  | eventDropped (event : Value)
  | eventPublished (event : Value) (subscribers : Nat)
  | observerThrew (thrown : Thrown) (event : Value) (subscription : Nat)
  | completionThrew (thrown : Thrown) (subscription : Nat)
  | busCompleted (subscribers : Nat)
  | reading (property : String)
  | writing (property : String)
  | invoking (action : String) (arguments : Nat)
  | interactionAdded (kind : InteractionKind) (name : String)
  | interactionRemoved (kind : InteractionKind) (name : String)
  | thingRegistered (id name : String)
  | thingExposed (id : String)
  | thingDisabled (id : String)
  | thingRemoved (id : String)
  | relayed (id event : Value)
  | relayFailed (thrown : Thrown) (id event : Value)
  deriving Repr

/-- A detail of a line: a value, or something that was thrown. -/
inductive Detail where
  | value (v : Value)
  | thrown (t : Thrown)
  deriving Repr

namespace Note

def level : Note → Level
  | .observerThrew .. => .warn
  | .completionThrew .. => .warn
  | .relayFailed .. => .warn
  | .thingExposed _ => .info
  | .thingDisabled _ => .info
  | .thingRemoved _ => .info
  | _ => .debug

def message : Note → String
  | .eventDropped _ => "Event bus completed, dropping event"
  | .eventPublished .. => "Event published"
  | .observerThrew .. => "Event subscriber threw during delivery"
  | .completionThrew .. => "Event subscriber failed on completion"
  | .busCompleted _ => "Event bus completed"
  | .reading _ => "Reading property"
  | .writing _ => "Writing property"
  | .invoking .. => "Invoking action"
  | .interactionAdded .. => "Interaction added"
  | .interactionRemoved .. => "Interaction removed"
  | .thingRegistered .. => "Thing registered"
  | .thingExposed _ => "Thing exposed"
  | .thingDisabled _ => "Thing disabled"
  | .thingRemoved _ => "Thing removed"
  | .relayed .. => "Relayed thing event"
  | .relayFailed .. => "Failed to relay thing event"

private def text (key s : String) : String × Detail := (key, .value (.string s))

private def count (key : String) (n : Nat) : String × Detail := (key, .value (.ofNat n))

def details : Note → List (String × Detail)
  | .eventDropped event => [("event", .value event)]
  | .eventPublished event subscribers =>
    [("event", .value event), count "subscriberCount" subscribers]
  | .observerThrew t event subscription =>
    [("err", .thrown t), ("event", .value event), count "subscriptionId" subscription]
  | .completionThrew t subscription => [("err", .thrown t), count "subscriptionId" subscription]
  | .busCompleted subscribers => [count "subscriberCount" subscribers]
  | .reading property => [text "property" property]
  | .writing property => [text "property" property]
  | .invoking action arguments => [text "action" action, count "argCount" arguments]
  | .interactionAdded kind name => [text "kind" kind.name, text "interaction" name]
  | .interactionRemoved kind name => [text "kind" kind.name, text "interaction" name]
  | .thingRegistered id name => [text "thing_id" id, text "name" name]
  | .thingExposed id => [text "thing_id" id]
  | .thingDisabled id => [text "thing_id" id]
  | .thingRemoved id => [text "thing_id" id]
  | .relayed id event => [text "channel" relayChannel, ("thing_id", .value id), ("event", .value event)]
  | .relayFailed t id event => [("err", .thrown t), ("thing_id", .value id), ("event", .value event)]

end Note

/-- A line of the log: what a Thing's own logger writes carries the Thing's id. -/
structure LogLine where
  thing : Option String
  note : Note
  deriving Repr

/-- The details of a line; the line's own stand over those of its logger. -/
def LogLine.details (l : LogLine) : List (String × Detail) :=
  let own := l.note.details
  match l.thing with
  | some id => if Members.has "thing_id" own then own else ("thing_id", .value (.string id)) :: own
  | none => own

end ThingHost
