import ThingHost.Host.Basic

/-! How a host takes an input. -/

namespace ThingHost
namespace Host

/-- A host and what it has put out. -/
abbrev Step := Host × List Output

/-- Lines of the log, with the Thing whose logger writes them. -/
def noted (thing : Option String) (notes : List Note) : List Output :=
  notes.map fun n => .log ⟨thing, n⟩

/-- An operation is over. -/
def returns (h : Host) (r : Except Thrown Result) : Step := (h, [.returned r])

/-- Puts out something before a step. -/
def prepend (out : List Output) (s : Step) : Step := (s.1, out ++ s.2)

/-! ### Going on -/

def settle (h : Host) (call : Nat) (outcome : Outcome) : Step :=
  (h.setProgress call (.settled outcome), [.settled call outcome])

def finish (h : Host) : After → Step
  | .returned r => h.returns r
  | .settled call outcome => h.settle call outcome

/-- Starts a posting. -/
def startPosting (h : Host) (thing : Value) (e : Event) : Host × Nat :=
  ({ h with postings := h.postings ++ [⟨thing, e.name, .running⟩] }, h.postings.length)

/-- Does what a bus asks for next. -/
def follow (h : Host) (bus : BusRef) (after : After) : Turn Listener → Step
  | .over => h.finish after
  | .next d =>
    match d.current.owner with
    | .client n => (h.push (.next bus d after), [.callNext n d.event])
    | .relay broker thing =>
      let (h, n) := h.startPosting (.string thing) d.event
      (h.push (.relaying n bus d after),
        [.callBroker broker n relayChannel (Json.write (Relay.message (.string thing) d.event h.clock))])
  | .complete c =>
    match c.current.owner with
    | .client n => (h.push (.complete bus c after), [.callComplete n])
    | .relay .. => h.finish after

/-- Takes over what an operation on a bus made of it, and goes on. -/
def onBus (h : Host) (ref : BusRef) (after : After) (r : Bus Listener × List Note × Turn Listener) : Step :=
  prepend (noted (h.busThing ref) r.2.1) ((h.setBus ref r.1).follow ref after r.2.2)

/-- Publishes an event on a bus. -/
def publish (h : Host) (ref : BusRef) (e : Event) (after : After) : Step :=
  match h.bus? ref with
  | some b => h.onBus ref after (b.publish e)
  | none => h.finish after

def complete (h : Host) (ref : BusRef) (after : After) : Step :=
  match h.bus? ref with
  | some b => h.onBus ref after b.complete
  | none => h.finish after

/-! ### Servients -/

/-- Changes a servient, or returns why not; `note` is logged on success. -/
def onServient (h : Host) (servient : Nat) (f : Servient → Except ThingError Servient) (note : Note) :
    Step :=
  match h.servients[servient]? with
  | none => (h, [])
  | some s =>
    match f s with
    | .ok s => prepend (noted none [note]) ((h.setServient servient s).returns (.ok .none))
    | .error e => h.returns (refuse e)

/-- Declares the interactions of a definition on a Thing that nobody listens to yet. The announcements
    reach nobody, but count. -/
def declareAll (x : ExposedThing) : List (InteractionKind × String × Value) →
    Except Thrown ExposedThing × List Note
  | [] => (.ok x, [])
  | (kind, name, definition) :: rest =>
    match x.add kind (.string name) definition none with
    | .error t => (.error t, [])
    | .ok (x, e) =>
      let (bus, notes, _) := x.bus.publish e
      let (r, more) := declareAll { x with bus } rest
      (r, .interactionAdded kind name :: notes ++ more)

/-- The interactions that a Thing's definition declares, section by section. -/
def declarations (definition : Value) : List (InteractionKind × String × Value) :=
  InteractionKind.all.flatMap fun kind =>
    (definition.member (sectionKey kind)).fields.map fun (name, d) => (kind, name, d)

def produce (h : Host) (servient : Nat) (definition : Value) (freshId : String) : Step :=
  match h.servients[servient]? with
  | none => (h, [])
  | some s =>
    match thingSchema.parse definition with
    | .error issues => h.returns (refuse (.invalidThing issues))
    | .ok parsed =>
      let id := (parsed.text? "id").getD freshId
      let name := (parsed.text? "name").getD ""
      if s.has id then h.returns (refuse (.duplicateThing id))
      else
        let x := ExposedThing.new servient (.new id name (parsed.text? "description"))
        let (r, notes) := declareAll x (declarations parsed)
        prepend (noted (some id) notes) (match r with
          | .error t => h.returns (.error t)
          | .ok x =>
            match s.register id h.things.length with
            | .error e => h.returns (refuse e)
            | .ok s =>
              prepend (noted none [.thingRegistered id name])
                (({ h with things := h.things ++ [x] }.setServient servient s).returns
                  (.ok (.thing h.things.length))))

/-! ### Things -/

/-- Does something with a Thing there is. -/
def withThing (h : Host) (t : Nat) (f : ExposedThing → Step) : Step :=
  match h.things[t]? with
  | some x => f x
  | none => (h, [])

/-- Changes what a Thing declares, and announces it. -/
def announce (h : Host) (t : Nat) (note : Note) (r : Except Thrown (ExposedThing × Event)) : Step :=
  match r with
  | .error e => h.returns (.error e)
  | .ok (x, e) =>
    prepend (noted (some x.id) [note]) ((h.setThing t x).publish (.own t) e (.returned (.ok .none)))

def destroy (h : Host) (t : Nat) : Step := h.withThing t fun x =>
  match h.servients[x.servient]? with
  | none => (h, [])
  | some s =>
    match s.remove (.string x.id) with
    | .ok s =>
      prepend (noted none [.thingRemoved x.id])
        ((h.setServient x.servient s).complete (.own t) (.returned (.ok .none)))
    | .error e => h.complete (.own t) (.returned (refuse e))

/-! ### Calls -/

/-- Notes that a call is made to an interaction. -/
def callNote (name : String) : Ask → Note
  | .read _ => .reading name
  | .write .. => .writing name
  | .invoke _ arguments => .invoking name arguments.length

/-- Adds a call to those under way. -/
def startCall (h : Host) (c : Call) : Host := { h with calls := h.calls ++ [c] }

/-- Queues the rest of a call, once its handler's result is there. -/
def answered (h : Host) (call : Nat) (answer : Outcome) : Host :=
  (h.setProgress call .answered).enqueue (.resume call answer)

def call (h : Host) (t : Nat) (ask : Ask) : Step :=
  h.withThing t fun x =>
    let n := h.calls.length
    match x.accept ask with
    | .error e =>
      let outcome : Outcome := refuse e
      let h := h.startCall ⟨t, ask, none, .settled outcome⟩
      prepend [.settled n outcome] (h.returns (.ok (.call n)))
    | .ok (i, handler) =>
      let h := h.startCall ⟨t, ask, some (i.serial, handler), .running⟩
      prepend (noted (some x.id) [callNote i.name ask]) (match handler with
        | .client c => (h.push (.handler n), [.callHandler c n ask.arguments])
        | .broken => (h.answered n (.error (.fault .notCallable))).returns (.ok (.call n))
        | .standard =>
          let (x, outcome) := x.answer ask
          ((h.setThing t x).answered n outcome).returns (.ok (.call n)))

/-- The rest of a call: a write or an invocation that succeeded is announced before it settles. -/
def resume (h : Host) (n : Nat) (answer : Outcome) : Step :=
  match h.calls[n]? with
  | none => (h, [])
  | some c =>
    match answer, c.ask with
    | .error t, _ => h.settle n (.error t)
    | .ok v, .read _ => h.settle n (.ok v)
    | .ok _, .write property value =>
      h.publish (.own c.thing) (.propertyChange property value) (.settled n (.ok .undefined))
    | .ok v, .invoke action _ =>
      h.publish (.own c.thing) (.actionInvocation action v) (.settled n (.ok v))

/-! ### Subscriptions -/

/-- Attaches a subscription to a bus. -/
def attach (h : Host) (ref : BusRef) (screen : Event → Screening) (completes : Bool) (l : Listener) : Step :=
  match h.bus? ref with
  | none => (h, [])
  | some b =>
    let (b', s) := b.attach screen completes l
    let h := h.setBus ref b'
    let sub : SubscriptionRef := ⟨ref, s.id⟩
    match b.completed && completes, l with
    | true, .client n => (h.push (.late sub), [.callComplete n])
    | _, _ => h.returns (.ok (.subscription sub))

def subscribe (h : Host) (source : Source) (client : Nat) (completes : Bool) : Step :=
  match source with
  | .topic t topic => h.withThing t fun x =>
      match x.screen topic with
      | .error e => h.returns (refuse e)
      | .ok screen => h.attach (.own t) screen completes (.client client)
  | .bus n guard => h.attach (.alone n) (ExposedThing.screenBy guard) completes (.client client)

def unsubscribe (h : Host) (s : SubscriptionRef) : Step :=
  match h.bus? s.bus with
  | none => (h, [])
  | some b => (h.setBus s.bus (b.unsubscribe s.id)).returns (.ok .none)

/-! ### Postings -/

/-- Posts an event to a broker. What cannot be written is over at once, with a warning. -/
def post (h : Host) (broker : Nat) (thing : Value) (e : Event) : Step :=
  if !Instant.isValid h.clock then h.returns (.error (.fault .invalidTime))
  else
    let (h, n) := h.startPosting thing e
    if Relay.writable e then
      (h.push (.posting n), [.callBroker broker n relayChannel (Json.write (Relay.message thing e h.clock))])
    else
      prepend (noted none [.relayFailed (.fault .unwritableNumber) thing e.name] ++ [.answered n])
        ((h.setStage n .over).returns (.ok (.posting n)))

/-- The broker has answered. -/
def posted (h : Host) (n : Nat) (failure : Option Thrown) : Step :=
  match h.postings[n]? with
  | none => (h, [])
  | some p =>
    let note : Note := match failure with
      | none => .relayed p.thing p.event
      | some t => .relayFailed t p.thing p.event
    (h.setStage n .over, noted none [note] ++ [.answered n])

/-- The broker's code is done: its answer is there, or it threw, or its answer comes later. -/
def brokerDone (h : Host) (n : Nat) : Reply → Step
  | .done _ => ((h.setStage n .answered).enqueue (.posted n none), [])
  | .threw t => h.posted n (some t)
  | .promised => (h.setStage n .waiting, [])

/-! ### Inputs -/

def operate (h : Host) : Operation → Step
  | .newServient =>
    returns { h with servients := h.servients ++ [.empty] } (.ok (.servient h.servients.length))
  | .produce s definition freshId => h.produce s definition freshId
  | .newThing s id name description =>
    returns { h with things := h.things ++ [.new s (.new id name description)] }
      (.ok (.thing h.things.length))
  | .register s t => h.withThing t fun x =>
      h.onServient s (·.register x.id t) (.thingRegistered x.id x.thing.name)
  | .enable s id => h.onServient s (·.enable id) (.thingExposed id.plainText)
  | .disable s id => h.onServient s (·.disable id) (.thingDisabled id.plainText)
  | .removeThing s id => h.onServient s (·.remove id) (.thingRemoved id.plainText)
  | .expose t => h.withThing t fun x =>
      h.onServient x.servient (·.enable (.string x.id)) (.thingExposed x.id)
  | .destroy t => h.destroy t
  | .add t kind name definition handler => h.withThing t fun x =>
      h.announce t (.interactionAdded kind name.plainText) (x.add kind name definition (handler.map .client))
  | .remove t kind name => h.withThing t fun x =>
      h.announce t (.interactionRemoved kind name.plainText) ((x.remove kind name).mapError .ofRefusal)
  | .setHandler t kind handler name => h.withThing t fun x =>
      match x.setHandler kind (.client handler) name with
      | .ok x => (h.setThing t x).returns (.ok .none)
      | .error e => h.returns (refuse e)
  | .emit t name payload => h.withThing t fun x =>
      match x.emitted name payload with
      | .ok e => h.publish (.own t) e (.returned (.ok .none))
      | .error e => h.returns (refuse e)
  | .call t ask => h.call t ask
  | .subscribe source client completes => h.subscribe source client completes
  | .unsubscribe s => h.unsubscribe s
  | .newBus => returns { h with buses := h.buses ++ [.new] } (.ok (.bus h.buses.length))
  | .publish n e => h.publish (.alone n) e (.returned (.ok .none))
  | .complete n => h.complete (.alone n) (.returned (.ok .none))
  | .relay t broker => h.withThing t fun x =>
      h.attach (.own t) (Relay.screen (.string x.id)) false (.relay broker x.id)
  | .post broker thing e => h.post broker thing e

/-- The client code on top of the stack is done. -/
def replied (h : Host) (r : Reply) : Frame → Step
  | .next ref d after =>
    match h.bus? ref with
    | some b => h.onBus ref after (b.afterNext d r.thrown?)
    | none => (h, [])
  | .complete ref c after =>
    match h.bus? ref with
    | some b => h.onBus ref after (b.afterComplete c r.thrown?)
    | none => (h, [])
  | .late s =>
    match r with
    | .threw t => h.returns (.error t)
    | _ => h.returns (.ok (.subscription s))
  | .handler n =>
    let h := match r with
      | .done v => h.answered n (.ok v)
      | .threw t => h.answered n (.error t)
      | .promised => h.setProgress n .waiting
    h.returns (.ok (.call n))
  | .relaying n ref d after =>
    let (h, out) := h.brokerDone n r
    prepend out (match h.bus? ref with
      | some b => h.onBus ref after (b.afterNext d none)
      | none => (h, []))
  | .posting n =>
    let (h, out) := h.brokerDone n r
    prepend out (h.returns (.ok (.posting n)))
  | .woken => (h, [])

/-- Does the first work in the queue. -/
def work (h : Host) : Step :=
  match h.queue with
  | [] => (h, [])
  | job :: queue =>
    let h := { h with queue }
    match job with
    | .resume n answer => h.resume n answer
    | .posted n failure => h.posted n failure
    | .wake token => (h.push .woken, [.wake token])

/-- Takes an input. One that makes no sense changes nothing: a reply when no client code runs, work
    while some does, an answer to a call or posting that is not waiting for one. -/
def step (h : Host) : Input → Step
  | .operate op => h.operate op
  | .reply r =>
    match h.stack with
    | [] => (h, [])
    | f :: stack => { h with stack }.replied r f
  | .answer n outcome =>
    match h.calls[n]? with
    | some { progress := .waiting, .. } => (h.answered n outcome, [])
    | _ => (h, [])
  | .acknowledge n failure =>
    match h.postings[n]? with
    | some { stage := .waiting, .. } => ((h.setStage n .answered).enqueue (.posted n failure), [])
    | _ => (h, [])
  | .defer token => (h.enqueue (.wake token), [])
  | .tick => if h.stack.isEmpty then h.work else (h, [])
  | .setClock ms => ({ h with clock := ms }, [])

/-- Takes inputs one after another. -/
def run (h : Host) : List Input → Step
  | [] => (h, [])
  | i :: rest =>
    let (h, out) := h.step i
    prepend out (h.run rest)

end Host
end ThingHost
