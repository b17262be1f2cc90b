import ThingHost.Bus
import ThingHost.Definition
import ThingHost.Handlers
import ThingHost.Store
import ThingHost.Thing.Description

/-! A Thing that is served: what it declares, the values of its properties, the handlers that answer
    calls to it, and the bus on which everything it does is announced.

    The operations here say what changes and what is to be announced; the announcement itself runs the
    code of subscribers, and is left to the host. -/

namespace ThingHost

/-- Who answers a call: the host itself, or the code of a client, known by a number, or nobody because
    what was given for a handler is no code. -/
inductive Handler where
  | standard
  | client (n : Nat)
  | broken
  deriving DecidableEq, Repr

/-- Who listens to a bus: the code of a client, known by a number, or the relay to a message broker. -/
inductive Listener where
  | client (n : Nat)
  | relay (broker : Nat) (thing : String)
  deriving DecidableEq, Repr

/-- What a call asks of a Thing. The name that is given need not be text. -/
inductive Ask where
  | read (property : Value)
  | write (property value : Value)
  | invoke (action : Value) (arguments : List Value)
  deriving Repr

namespace Ask

def kind : Ask → CallKind
  | .read _ => .read
  | .write .. => .write
  | .invoke .. => .invoke

/-- The interaction that is called. -/
def name : Ask → Value
  | .read property => property
  | .write property _ => property
  | .invoke action _ => action

/-- What the handler is called with. -/
def arguments : Ask → List Value
  | .read property => [property]
  | .write property value => [property, value]
  | .invoke _ arguments => arguments

end Ask

structure ExposedThing where
  /-- The servient it belongs to, by number. -/
  servient : Nat
  thing : Thing
  store : Store Nat
  handlers : Handlers Nat Handler
  bus : Bus Listener
  nextSerial : Nat

namespace ExposedThing

def new (servient : Nat) (t : Thing) : ExposedThing :=
  ⟨servient, t, .empty, .ofDefaults fun _ => .standard, .new, 0⟩

def id (x : ExposedThing) : String := x.thing.id

/-! ### Declaring interactions -/

/-- Declares an interaction and says what to announce. The initial value of a property is stored if
    there is one, and the handler given with an action becomes its own. -/
def declare (x : ExposedThing) (kind : InteractionKind) (name : String) (definition : Value)
    (handler : Option Handler) : Except ThingError (ExposedThing × Event) := do
  let i := interactionOf x.nextSerial kind name definition
  let thing ← x.thing.add i
  let initial := definition.member "value"
  let store := if kind = .property && !initial.isUndefined then x.store.set i.serial initial else x.store
  let handlers := match handler with
    | some h => x.handlers.set .invoke h (some i.serial)
    | none => x.handlers
  return ({ x with thing, store, handlers, nextSerial := x.nextSerial + 1 },
    .added kind name definition thing.toDescription)

/-- The definition that is checked. Nothing given stands for an empty one; of an action's, the handler
    is no part, and whatever it is, only its members count. -/
def givenDefinition (kind : InteractionKind) (definition : Value) : Except Thrown Value :=
  match kind, definition with
  | _, .undefined => .ok (.object [])
  | .action, .null => .error (.fault .missingDefinition)
  | .action, v => .ok (.object (Members.without "handler" v.spread))
  | _, v => .ok v

/-- The handler that comes with an action: the one given beside its definition, else whatever the
    definition has in that place, unless it is as good as nothing. -/
def givenHandler (kind : InteractionKind) (definition : Value) : Option Handler → Option Handler
  | some h => some h
  | none => if kind = .action && !(definition.member "handler").isVoid then some .broken else none

/-- No event of an application may be named like a notification. -/
def checkReserved (kind : InteractionKind) (name : Value) : Except ThingError Unit :=
  match kind, name with
  | .event, .string s =>
    if isReserved s then .error (.invalidInteraction name [⟨[.key "name"], .nameReserved s⟩]) else .ok ()
  | _, _ => .ok ()

/-- Checks a name and a definition, and declares the interaction. -/
def add (x : ExposedThing) (kind : InteractionKind) (name definition : Value)
    (handler : Option Handler) : Except Thrown (ExposedThing × Event) := do
  let given ← givenDefinition kind definition
  let parsed ← (parseDefinition (interactionSchema kind) name given).mapError .ofRefusal
  (checkReserved kind name).mapError .ofRefusal
  match name with
  | .string s => (x.declare kind s parsed (givenHandler kind definition handler)).mapError .ofRefusal
  | _ => refuse (.invalidInteraction name [])

/-- Withdraws an interaction, with the value it had, and says what to announce. -/
def remove (x : ExposedThing) (kind : InteractionKind) (name : Value) :
    Except ThingError (ExposedThing × Event) := do
  let i ← x.thing.require kind name
  return ({ x with thing := x.thing.remove i.name, store := x.store.erase i.serial }, .removed kind i.name)

/-! ### Handlers -/

/-- The kind of interaction that a kind of call is made to. -/
def target : CallKind → InteractionKind
  | .read => .property
  | .write => .property
  | .invoke => .action

/-- Sets the handler of all interactions, or of the one of a name. -/
def setHandler (x : ExposedThing) (kind : CallKind) (handler : Handler) (name : Option Value) :
    Except ThingError ExposedThing :=
  match name with
  | none => .ok { x with handlers := x.handlers.set kind handler none }
  | some n => do
    let i ← x.thing.require (target kind) n
    return { x with handlers := x.handlers.set kind handler (some i.serial) }

/-- What a call is checked against, and who answers it. -/
def accept (x : ExposedThing) (ask : Ask) : Except ThingError (Interaction × Handler) := do
  let i ← x.thing.require (target ask.kind) ask.name
  if ask.kind = .write && !i.writable then .error (.notWritable i.name)
  return (i, x.handlers.get ask.kind (some i.serial))

/-- The host's own answer to a call: properties are read from and written to the store, and an action
    is refused. -/
def answer (x : ExposedThing) : Ask → ExposedThing × Outcome
  | .read property =>
    match x.thing.require .property property with
    | .ok i => (x, .ok (x.store.get i.serial))
    | .error e => (x, refuse e)
  | .write property value =>
    match x.thing.require .property property with
    | .ok i => ({ x with store := x.store.set i.serial value }, .ok .undefined)
    | .error e => (x, refuse e)
  | .invoke .. => (x, refuse .undefinedActionHandler)

/-! ### Events -/

/-- What a client subscribes to. -/
inductive Topic where
  | event (name : Value)
  | property (name : Value)
  | description
  | all (guard : Event → Except Thrown Bool)

/-- How a guard screens events. -/
def screenBy (guard : Event → Except Thrown Bool) (e : Event) : Screening :=
  match guard e with
  | .ok true => .wanted
  | .ok false => .unwanted
  | .error t => .faulty t

/-- The events of a topic, if it may be subscribed to. -/
def screen (x : ExposedThing) : Topic → Except ThingError (Event → Screening)
  | .event name =>
    match x.thing.findKind? .event name with
    | some i => .ok (screenBy fun e => .ok (e.isUser i.name))
    | none => .error (.unknownEvent name)
  | .property name =>
    match x.thing.findKind? .property name with
    | some i =>
      if i.observable then .ok (screenBy fun e => .ok (e.isChangeOf i.name))
      else .error (.notObservable i.name)
    | none => .error (.unknownProperty name)
  | .description => .ok (screenBy fun e => .ok e.isDescriptionChange)
  | .all guard => .ok (screenBy guard)

/-- The event that an application emits, if the Thing declares it. -/
def emitted (x : ExposedThing) (name payload : Value) : Except ThingError Event :=
  match x.thing.findKind? .event name with
  | some _ => .ok (.user name payload)
  | none => .error (.unknownEvent name)

end ExposedThing
end ThingHost
