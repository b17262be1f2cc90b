import ThingHost.Script.Basic

/-! Running a script against a host. Whenever the host waits for a client's code, the script of that
    client is followed, down to any depth; a call that waits for a gate goes on when the gate is opened.

    A script can make a host go on for ever, say by publishing an event on every event. So a run has
    fuel, and what is left undone when it is spent stays undone. -/

namespace ThingHost
namespace Script

/-- What a label of a call stands for. -/
inductive Ticket where
  | call (n : Nat)
  | posting (n : Nat)
  /-- A request that was taken up. -/
  | request (e : Http.Exchange)
  | over (outcome : Outcome)
  /-- A request that the host has not taken up yet. -/
  | queued

/-- An observer that was given to a subscription. -/
structure Watch where
  label : Value
  script : Observer
  /-- How many events it has got. -/
  count : Nat

/-- A handler that waits for a gate, or for its turn. -/
structure Wait where
  gate : String
  call : Nat
  arguments : List Value
  owner : Value
  behaviour : Behaviour

structure Session where
  host : Host
  servients : List (String × Nat)
  things : List (String × Nat)
  buses : List (String × Nat)
  subscriptions : List (String × SubscriptionRef)
  watches : List Watch
  handlers : List Handler
  /-- What the broker of each relay fails with, if it does. -/
  brokers : List (Option String)
  openGates : List String
  waits : List Wait
  /-- The waits whose gate is not open yet, in order of arrival. -/
  blocked : List Nat
  tickets : List Ticket
  /-- The requests that the host takes up when nothing else is left to do, with their tickets. -/
  requests : List (Nat × Nat × Except Fault Http.Request)
  /-- The tickets that have been reported. -/
  reported : List Nat
  /-- What is still to be reported, last first. -/
  seen : List Sight
  log : List LogLine
  /-- The number of the next id that has to be made up. -/
  nextId : Nat
  /-- The log is reported. -/
  logging : Bool

namespace Session

def new (logging : Bool) : Session :=
  { host := .new, servients := [("main", 0)], things := [], buses := [], subscriptions := [],
    watches := [], handlers := [], brokers := [], openGates := [], waits := [], blocked := [],
    tickets := [], requests := [], reported := [], seen := [], log := [], nextId := 1, logging }

/-- Scripts run in a session. -/
abbrev Run := StateM Session

/-! ### Small parts -/

def look (s : Sight) : Run Unit := modify fun t => { t with seen := s :: t.seen }

/-- Gives a label a meaning; a label that has one keeps its place and gets the new one. -/
def assign {α : Type} (label : String) (a : α) (labels : List (String × α)) : List (String × α) :=
  if Members.has label labels then Members.replace label a labels else labels ++ [(label, a)]

/-- Whose turn it is. -/
inductive Control where
  | returned (r : Except Thrown Result)
  | next (client : Nat) (e : Event)
  | complete (client : Nat)
  | handler (client call : Nat) (arguments : List Value)
  | broker (broker posting : Nat) (text : String)
  | wake (token : Nat)
  /-- Nobody's. -/
  | idle

def controlOf : Output → Option Control
  | .returned r => some (.returned r)
  | .callNext client e => some (.next client e)
  | .callComplete client => some (.complete client)
  | .callHandler client call arguments => some (.handler client call arguments)
  | .callBroker broker posting _ text => some (.broker broker posting text)
  | .wake token => some (.wake token)
  | _ => none

def lineOf : Output → Option LogLine
  | .log line => some line
  | _ => none

/-- Takes over what the host has done, and says whose turn it is then. -/
def absorb (step : Host.Step) : Run Control := do
  let (host, out) := step
  modify fun s => { s with host, log := (out.filterMap lineOf).reverse ++ s.log }
  return ((out.filterMap controlOf).getLast?).getD .idle

/-- Gives the host an input. -/
def input (i : Input) : Run Control := do absorb ((← get).host.step i)

/-- Hands out a label for a call. -/
def ticket (t : Ticket) : Run Ran := do
  let s ← get
  set { s with tickets := s.tickets ++ [t] }
  return .started (s.tickets.length + 1)

/-- How a handler ends, as far as it is decided. -/
inductive Acted where
  | done (v : Value)
  | threw (t : Thrown)
  | waits

def Acted.reply : Acted → Reply
  | .done v => .done v
  | .threw t => .threw t
  | .waits => .promised

/-- Makes a handler wait for a gate; if it is open, only for its turn. -/
def await (w : Wait) : Run Unit := do
  let s ← get
  let token := s.waits.length
  set { s with waits := s.waits ++ [w] }
  if s.openGates.contains w.gate then
    let _ ← input (.defer token)
  else modify fun s => { s with blocked := s.blocked ++ [token] }

/-- Opens a gate for good: those who wait for it get their turns in order of arrival. -/
def release (gate : String) : Run Unit := do
  let s ← get
  let waitsForIt (token : Nat) : Bool := s.waits[token]?.any (·.gate = gate)
  set { s with openGates := gate :: s.openGates, blocked := s.blocked.filter fun t => !waitsForIt t }
  for token in s.blocked do
    if waitsForIt token then
      let _ ← input (.defer token)

/-! ### What commands return -/

def identity (x : ExposedThing) : Value :=
  .object [("id", .string x.id), ("name", .string x.thing.name), ("url_name", .string x.thing.urlName)]

def closedValue (closed : Bool) : Value := .object [("closed", .bool closed)]

/-- The value of a reply to a request. -/
def responseValue (r : Http.Response) : Value :=
  .object [("status", .ofNat r.status), ("type", (r.contentType.map Value.string).getD .null),
    ("body", .string r.body)]

/-- The first label of a Thing, in the order in which labels were first used. -/
def labelOf (s : Session) (thing : Option Nat) : Value :=
  match thing.bind fun t => s.things.find? (·.2 = t) with
  | some (label, _) => .string label
  | none => .null

/-- Takes over what an operation returned: labels what is new, and says what the command comes to.
    `label` is the label the command gives. -/
def conclude (label : String) : Except Thrown Result → Run Ran
  | .error t => return .failed (.thrown t)
  | .ok .none => return .value .undefined
  | .ok (.servient n) => do
    modify fun s => { s with servients := assign label n s.servients }
    return .value .undefined
  | .ok (.thing n) => do
    modify fun s => { s with things := assign label n s.things }
    return .value (((← get).host.things[n]?.map identity).getD .undefined)
  | .ok (.bus n) => do
    modify fun s => { s with buses := assign label n s.buses }
    return .value .undefined
  | .ok (.subscription sub) => do
    modify fun s => { s with subscriptions := assign label sub s.subscriptions }
    return .value (closedValue ((← get).host.isClosed sub))
  | .ok (.call n) => ticket (.call n)
  | .ok (.posting n) => ticket (.posting n)

/-! ### Settled calls -/

/-- The outcome of what a label stands for, once it is there. -/
def Ticket.outcome? (h : Host) : Ticket → Option Outcome
  | .call n => h.settled? n
  | .posting n =>
    match h.postings[n]? with
    | some { stage := .over, .. } => some (.ok .undefined)
    | _ => none
  | .request e => (e.response? h).map fun r => .ok (responseValue r)
  | .over outcome => some outcome
  | .queued => none

def ticketOutcome? (s : Session) (n : Nat) : Option Outcome :=
  (s.tickets[n - 1]?).bind (Ticket.outcome? s.host)

end Session
end Script
end ThingHost
