import ThingHost.Exposed
import ThingHost.Relay
import ThingHost.Servient

/-! A host: servients, the Things they serve, buses, the calls that are under way, and the queue of
    work that is to be done later.

    A host runs no client's code. A client makes the host do something through an `Input`; the host goes
    on until it is done or some client's code has to run, and tells by its `Output`s what it did and what
    it waits for. Whatever waits stands on the host's stack: the code that runs last was called last, and
    while it runs it may use the host in any way. Every run of a host is a list of inputs, so what holds
    of every list of inputs holds whatever the clients do. -/

namespace ThingHost

/-- A bus: a Thing's own, or one that stands alone. -/
inductive BusRef where
  | own (thing : Nat)
  | alone (n : Nat)
  deriving DecidableEq, Repr

/-- A subscription: its bus, and its number there. -/
structure SubscriptionRef where
  bus : BusRef
  id : Nat
  deriving DecidableEq, Repr

/-! ### Work under way -/

/-- How far a call is. -/
inductive Progress where
  /-- Its handler runs. -/
  | running
  /-- Its handler has promised a result. -/
  | waiting
  /-- The handler's result is there; the rest of the call is in the queue. -/
  | answered
  | settled (outcome : Outcome)
  deriving Repr

/-- A call to an interaction. -/
structure Call where
  thing : Nat
  ask : Ask
  /-- The interaction it was checked against, and who answers it; none if it was refused. -/
  accepted : Option (Nat × Handler)
  progress : Progress
  deriving Repr

/-- How far a posting is. -/
inductive Stage where
  /-- The broker takes the message. -/
  | running
  /-- The broker has promised an answer. -/
  | waiting
  /-- The broker's answer is there; noting it is in the queue. -/
  | answered
  | over
  deriving DecidableEq, Repr

/-- A message posted to a broker. -/
structure Posting where
  thing : Value
  event : Value
  stage : Stage
  deriving Repr

/-- Work in the queue. -/
inductive Job where
  /-- The rest of a call whose handler's result is there. -/
  | resume (call : Nat) (answer : Outcome)
  /-- The broker has answered a posting, or failed to. -/
  | posted (posting : Nat) (failure : Option Thrown)
  /-- Code that a client queued for itself. -/
  | wake (token : Nat)
  deriving Repr

/-! ### Results -/

/-- What an operation returns. -/
inductive Result where
  | none
  | servient (n : Nat)
  | thing (n : Nat)
  | bus (n : Nat)
  | subscription (s : SubscriptionRef)
  /-- A call that settles later. -/
  | call (n : Nat)
  /-- A posting that is answered later. -/
  | posting (n : Nat)
  deriving DecidableEq, Repr

/-- What an operation on a bus leads to when it is over. -/
inductive After where
  /-- It was the last thing an operation did. -/
  | returned (r : Except Thrown Result)
  /-- It was the last thing a call did. -/
  | settled (call : Nat) (outcome : Outcome)

/-- Client code that runs, and what goes on when it is done. -/
inductive Frame where
  | next (bus : BusRef) (d : Delivery Listener) (after : After)
  | complete (bus : BusRef) (c : Completion Listener) (after : After)
  /-- A subscription made on a completed bus is told so before it is handed out. -/
  | late (s : SubscriptionRef)
  | handler (call : Nat)
  /-- The broker takes a message, for a relay in the middle of a delivery. -/
  | relaying (posting : Nat) (bus : BusRef) (d : Delivery Listener) (after : After)
  /-- The broker takes a message that was posted directly. -/
  | posting (posting : Nat)
  | woken

structure Host where
  servients : List Servient
  things : List ExposedThing
  buses : List (Bus Listener)
  calls : List Call
  postings : List Posting
  queue : List Job
  stack : List Frame
  /-- The time, in milliseconds since the start of 1970. -/
  clock : Int

/-! ### What comes in -/

/-- What a subscription is made to: a topic of a Thing, or a bus that stands alone. -/
inductive Source where
  | topic (thing : Nat) (topic : ExposedThing.Topic)
  | bus (n : Nat) (guard : Event → Except Thrown Bool)

/-- What is asked of a host. Names and ids that are looked up need not be text. -/
inductive Operation where
  | newServient
  /-- Builds a Thing from its definition and registers it. The fresh id is for one without an id. -/
  | produce (servient : Nat) (definition : Value) (freshId : String)
  /-- A Thing that is not registered. -/
  | newThing (servient : Nat) (id name : String) (description : Option String)
  | register (servient thing : Nat)
  | enable (servient : Nat) (id : Value)
  | disable (servient : Nat) (id : Value)
  | removeThing (servient : Nat) (id : Value)
  | expose (thing : Nat)
  | destroy (thing : Nat)
  | add (thing : Nat) (kind : InteractionKind) (name definition : Value) (handler : Option Nat)
  | remove (thing : Nat) (kind : InteractionKind) (name : Value)
  | setHandler (thing : Nat) (kind : CallKind) (handler : Nat) (name : Option Value)
  | emit (thing : Nat) (name payload : Value)
  | call (thing : Nat) (ask : Ask)
  | subscribe (source : Source) (client : Nat) (completes : Bool)
  | unsubscribe (s : SubscriptionRef)
  | newBus
  | publish (bus : Nat) (e : Event)
  | complete (bus : Nat)
  | relay (thing broker : Nat)
  | post (broker : Nat) (thing : Value) (e : Event)

/-- How client code ends. -/
inductive Reply where
  | done (v : Value)
  | threw (t : Thrown)
  /-- It promises a result that is not there yet. -/
  | promised

/-- What client code threw, if it did. -/
def Reply.thrown? : Reply → Option Thrown
  | .threw t => some t
  | _ => none

inductive Input where
  | operate (op : Operation)
  /-- The client code that runs is done. -/
  | reply (r : Reply)
  /-- The result that a handler promised is there. -/
  | answer (call : Nat) (outcome : Outcome)
  /-- The answer that a broker promised is there. -/
  | acknowledge (posting : Nat) (failure : Option Thrown)
  /-- A client queues code of its own. -/
  | defer (token : Nat)
  /-- The first work in the queue is done. -/
  | tick
  | setClock (ms : Int)

/-! ### What goes out -/

inductive Output where
  | log (line : LogLine)
  /-- An operation is over. -/
  | returned (r : Except Thrown Result)
  | settled (call : Nat) (outcome : Outcome)
  | answered (posting : Nat)
  /-- A client's code has to run: an observer is handed an event, -/
  | callNext (client : Nat) (e : Event)
  /-- or told of the completion, -/
  | callComplete (client : Nat)
  /-- or a handler is called, -/
  | callHandler (client call : Nat) (arguments : List Value)
  /-- or a broker is handed a message for a channel, -/
  | callBroker (broker posting : Nat) (channel text : String)
  /-- or code that a client queued runs. -/
  | wake (token : Nat)

namespace Host

/-- A host with one servient. -/
def new : Host := ⟨[.empty], [], [], [], [], [], [], 0⟩

/-! ### Parts of a host -/

def bus? (h : Host) : BusRef → Option (Bus Listener)
  | .own t => h.things[t]?.map (·.bus)
  | .alone n => h.buses[n]?

def setThing (h : Host) (t : Nat) (x : ExposedThing) : Host := { h with things := h.things.set t x }

def setServient (h : Host) (s : Nat) (x : Servient) : Host := { h with servients := h.servients.set s x }

def setBus (h : Host) (ref : BusRef) (b : Bus Listener) : Host :=
  match ref with
  | .own t =>
    match h.things[t]? with
    | some x => h.setThing t { x with bus := b }
    | none => h
  | .alone n => { h with buses := h.buses.set n b }

/-- The id of the Thing that a bus belongs to; its log lines carry it. -/
def busThing (h : Host) : BusRef → Option String
  | .own t => h.things[t]?.map (·.id)
  | .alone _ => none

def push (h : Host) (f : Frame) : Host := { h with stack := f :: h.stack }

def enqueue (h : Host) (j : Job) : Host := { h with queue := h.queue ++ [j] }

def setProgress (h : Host) (call : Nat) (p : Progress) : Host :=
  match h.calls[call]? with
  | some c => { h with calls := h.calls.set call { c with progress := p } }
  | none => h

def setStage (h : Host) (posting : Nat) (s : Stage) : Host :=
  match h.postings[posting]? with
  | some p => { h with postings := h.postings.set posting { p with stage := s } }
  | none => h

/-! ### Questions -/

/-- The Thing registered under an id. -/
def registered? (h : Host) (servient : Nat) (id : Value) : Option Nat :=
  id.asText?.bind fun id => h.servients[servient]?.bind (·.get? id)

/-- The earliest registered Thing with a name in URLs. -/
def byUrlName? (h : Host) (servient : Nat) (urlName : Value) : Option Nat :=
  urlName.asText?.bind fun urlName => h.servients[servient]?.bind fun s =>
    (s.registered.find? fun (_, t) => h.things[t]?.any (·.thing.urlName = urlName)).map (·.2)

def isEnabled (h : Host) (servient : Nat) (id : Value) : Bool :=
  id.asText?.any fun id => h.servients[servient]?.any (·.isEnabled id)

/-- The registered Things of a servient, in the order of registration. -/
def thingsOf (h : Host) (servient : Nat) : List (Nat × ExposedThing) :=
  match h.servients[servient]? with
  | some s => s.registered.filterMap fun (_, t) => h.things[t]?.map (t, ·)
  | none => []

/-- Those that are enabled. -/
def enabledThingsOf (h : Host) (servient : Nat) : List (Nat × ExposedThing) :=
  match h.servients[servient]? with
  | some s => s.enabledThings.filterMap fun (_, t) => h.things[t]?.map (t, ·)
  | none => []

/-- Two Things are the same if they have one servient and one id. -/
def same (h : Host) (a b : Nat) : Bool :=
  match h.things[a]?, h.things[b]? with
  | some x, some y => x.servient = y.servient && x.id = y.id
  | _, _ => false

def isClosed (h : Host) (s : SubscriptionRef) : Bool := (h.bus? s.bus).any (·.isClosed s.id)

end Host
end ThingHost
