import ThingHost.Script.Session

/-! Following scripts: running commands, and the code of observers, handlers and brokers while the host
    waits for it. All of it is mutually recursive, as client code runs commands and commands make the
    host call client code; the fuel bounds how far a run goes. -/

namespace ThingHost
namespace Script
namespace Session

/-- The reaction fits the event, which is the `count`th. -/
def fits (count : Nat) (e : Event) : Reaction → Bool
  | .mk nth type name _ _ => nth.all (· = count) && agrees type (.string e.typeName) && agrees name e.name

/-- How an observer's code ended. -/
def ended : Option Thrown → Reply
  | some t => .threw t
  | none => .done .undefined

/-- A broker takes a message. One that fails says so a little later. -/
def takeMessage (broker posting : Nat) (text : String) : Run Control := do
  look (.posted text)
  match ((← get).brokers[broker]?).join with
  | none => input (.reply (.done .undefined))
  | some message =>
    let c ← input (.reply .promised)
    let _ ← input (.acknowledge posting (some (.failure "Error" message)))
    return c

/-- Takes a subscription's observer into the books. -/
def watch (label : Value) (observer : Observer) : Run Nat := do
  let s ← get
  set { s with watches := s.watches ++ [Watch.mk label observer 0] }
  return s.watches.length

def completes : Observer → Bool
  | .mk completes _ _ _ => completes

/-- Takes a handler into the books. -/
def enlist (handler : Handler) : Run Nat := do
  let s ← get
  set { s with handlers := s.handlers ++ [handler] }
  return s.handlers.length

/-- Takes a broker into the books. -/
def connect (failure : Option String) : Run Nat := do
  let s ← get
  set { s with brokers := s.brokers ++ [failure] }
  return s.brokers.length

/-- The id for the next Thing that has none. -/
def freshId (s : Session) : String := "urn:uuid:generated-" ++ toString s.nextId

/-- An id that was made up counts once it has been shown: by a Thing that has it or in the log. -/
def retire (id : String) (logged : Nat) (r : Ran) : Run Unit := do
  let s ← get
  let shown := match r with
    | .value v => v.text? "id" = some id
    | _ => false
  let inLog := s.logging && (s.log.take (s.log.length - logged)).any (·.thing = some id)
  if shown || inLog then set { s with nextId := s.nextId + 1 }

/-- A post that fails at once counts as a call that has failed. -/
def underLabel : Ran → Run Ran
  | .failed (.thrown t) => ticket (.over (.error t))
  | r => return r

/-! ### Commands -/

/-- What a command amounts to once its labels are looked up. -/
inductive Intent where
  /-- It is done, and came to this. -/
  | ran (r : Ran)
  /-- The host has to do something, whose result gets a label; then the books are closed on it. -/
  | operate (label : String) (op : Operation) (close : Ran → Run Ran)
  | batch (commands : List Named)

/-- Preparing a command fails where a label stands for nothing. -/
abbrev Prepare := ExceptT Failure Run

/-- What a label stands for. -/
def find {α : Type} (labels : Session → List (String × α)) (label : String) : Prepare α := do
  match Members.get? label (labels (← get)) with
  | some a => return a
  | none => throw (.noSuchLabel label)

def servient (label : String) : Prepare Nat := find (·.servients) label

def thing (label : String) : Prepare Nat := find (·.things) label

def tells (v : Value) : Prepare Intent := return .ran (.value v)

def does (label : String) (op : Operation) : Prepare Intent := return .operate label op pure

/-- The subscriptions a target stands for. -/
def source : Target → Prepare Source
  | .event t name => return .topic (← thing t) (.event name)
  | .property t name => return .topic (← thing t) (.property name)
  | .description t => return .topic (← thing t) .description
  | .all t predicate => return .topic (← thing t) (.all predicate.guard)
  | .bus bus predicate => return .bus (← find (·.buses) bus) predicate.guard

/-- The description of a Thing, unless it holds what has no text. -/
def description (h : Host) (t : Nat) : Ran :=
  match h.things[t]?.bind (·.thing.descriptionText?) with
  | some text => .value (.string text)
  | none => .failed (.thrown (.fault .unwritableNumber))

/-- The interactions of a Thing that are of some kinds. -/
def interactions (h : Host) (t : Nat) (kinds : List InteractionKind) : Value :=
  let all := (h.things[t]?.map (·.thing.interactions)).getD []
  .array ((all.filter fun i => kinds.contains i.kind).map Interaction.toValue)

/-- Looks up the labels of a command. -/
def prepare (name : Value) : Command → Prepare Intent
  | .newServient label => does label .newServient
  | .produce s label definition => do
    let n ← servient s
    let books ← get
    let id := freshId books
    return .operate label (.produce n definition id) fun r => do
      retire id books.log.length r
      return r
  | .newThing s label id name description => do
    does label (.newThing (← servient s) id name description)
  | .register s t => do does "" (.register (← servient s) (← thing t))
  | .enable s id => do does "" (.enable (← servient s) id)
  | .disable s id => do does "" (.disable (← servient s) id)
  | .removeThing s id => do does "" (.removeThing (← servient s) id)
  | .get s id => do
    let n ← servient s
    let books ← get
    tells (labelOf books (books.host.registered? n id))
  | .getByUrl s urlName => do
    let n ← servient s
    let books ← get
    tells (labelOf books (books.host.byUrlName? n urlName))
  | .isEnabled s id => do tells (.bool ((← get).host.isEnabled (← servient s) id))
  | .list s => do
    let n ← servient s
    tells (.array (((← get).host.thingsOf n).map fun (_, x) => .string x.id))
  | .listEnabled s => do
    let n ← servient s
    tells (.array (((← get).host.enabledThingsOf n).map fun (_, x) => .string x.id))
  | .info t => do
    let n ← thing t
    tells (((← get).host.things[n]?.map identity).getD .undefined)
  | .equals t other => do
    let a ← thing t
    let b ← thing other
    tells (.bool ((← get).host.same a b))
  | .expose t => do does "" (.expose (← thing t))
  | .destroy t => do does "" (.destroy (← thing t))
  | .describe t => do
    let n ← thing t
    return .ran (description (← get).host n)
  | .interactions t kinds => do
    let n ← thing t
    tells (interactions (← get).host n kinds)
  | .add t kind name definition handler => do
    let n ← thing t
    let client ← handler.mapM fun h => enlist h
    does "" (.add n kind name definition client)
  | .remove t kind name => do does "" (.remove (← thing t) kind name)
  | .setHandler t kind handler name => do
    let n ← thing t
    let client ← enlist handler
    does "" (.setHandler n kind client name)
  | .emit t name payload => do does "" (.emit (← thing t) name payload)
  | .call t ask => do does "" (.call (← thing t) ask)
  | .subscribe target label observer => do
    let origin ← source target
    let client ← watch label observer
    does label.plainText (.subscribe origin client (completes observer))
  | .unsubscribe label => do does "" (.unsubscribe (← find (·.subscriptions) label))
  | .closed label => do
    let sub ← find (·.subscriptions) label
    tells (.bool ((← get).host.isClosed sub))
  | .newBus label => does label .newBus
  | .publish bus e => do does "" (.publish (← find (·.buses) bus) e)
  | .complete bus => do does "" (.complete (← find (·.buses) bus))
  | .relay t label failure => do
    let n ← thing t
    let broker ← connect failure
    does label (.relay n broker)
  | .post t e failure => do
    let broker ← connect failure
    return .operate "" (.post broker t e) underLabel
  | .setClock ms => do
    let _ ← input (.setClock ms)
    tells .undefined
  | .release gate => do
    release gate
    tells .undefined
  | .batch commands => return .batch commands
  | .request s r => do
    let n ← servient s
    let ran ← ticket .queued
    modify fun s => { s with requests := s.requests ++ [(s.tickets.length - 1, n, r)] }
    return .ran ran
  | .unknown => throw (.unknownCommand name)
  | .incomplete f => throw (.thrown (.fault f))

/-! ### Client code -/

mutual

/-- Runs the code that the host waits for, until the operation is over. -/
def serve : Nat → Control → Run (Except Thrown Result)
  | 0, _ => return .ok .none
  | fuel + 1, c => do
    match c with
    | .returned r => return r
    | .next client e =>
      let thrown ← observe fuel client e
      let c ← input (.reply (ended thrown))
      serve fuel c
    | .complete client =>
      let thrown ← tell fuel client
      let c ← input (.reply (ended thrown))
      serve fuel c
    | .handler client call arguments =>
      let acted ← answer fuel client call arguments
      let c ← input (.reply acted.reply)
      serve fuel c
    | .broker broker posting text =>
      let c ← takeMessage broker posting text
      serve fuel c
    | .wake token =>
      wake fuel token
      let c ← input (.reply (.done .undefined))
      serve fuel c
    | .idle => return .ok .none

/-- Hands an event to an observer; says what it threw. -/
def observe : Nat → Nat → Event → Run (Option Thrown)
  | 0, _, _ => return none
  | fuel + 1, client, e => do
    let s ← get
    match s.watches[client]? with
    | none => return none
    | some w =>
      let count := w.count + 1
      set { s with watches := s.watches.set client { w with count } }
      look (.next w.label e)
      match w.script with
      | .mk _ reactions _ _ => react fuel w.label (reactions.filter (fits count e))

/-- Follows reactions one after another, up to the first that throws. -/
def react : Nat → Value → List Reaction → Run (Option Thrown)
  | 0, _, _ => return none
  | _, _, [] => return none
  | fuel + 1, owner, .mk _ _ _ commands throws :: rest => do
    runAll fuel owner commands
    match throws with
    | some t => return some t
    | none => react fuel owner rest

/-- Tells an observer that its bus is completed; says what it threw. -/
def tell : Nat → Nat → Run (Option Thrown)
  | 0, _ => return none
  | fuel + 1, client => do
    match (← get).watches[client]? with
    | none => return none
    | some w =>
      look (.complete w.label)
      match w.script with
      | .mk _ _ last throws =>
        runAll fuel w.label last
        return throws

/-- Calls a handler. -/
def answer : Nat → Nat → Nat → List Value → Run Acted
  | 0, _, _, _ => return .done .undefined
  | fuel + 1, client, call, arguments => do
    match (← get).handlers[client]? with
    | none => return .done .undefined
    | some (.mk id behaviour) =>
      look (.called id arguments)
      act fuel id call arguments behaviour

/-- Does what a handler does. -/
def act : Nat → Value → Nat → List Value → Behaviour → Run Acted
  | 0, _, _, _, _ => return .done .undefined
  | fuel + 1, owner, call, arguments, b => do
    match b with
    | .done v => return .done v
    | .throws t => return .threw t
    | .echo => return .done (.array arguments)
    | .argument n => return .done (arguments[n]?.getD .undefined)
    | .after commands rest =>
      runAll fuel owner commands
      act fuel owner call arguments rest
    | .gate gate rest =>
      await ⟨gate, call, arguments, owner, rest⟩
      return .waits

/-- A handler whose gate is open goes on. -/
def wake : Nat → Nat → Run Unit
  | 0, _ => return ()
  | fuel + 1, token => do
    match (← get).waits[token]? with
    | none => return ()
    | some w =>
      let acted ← act fuel w.owner w.call w.arguments w.behaviour
      match acted with
      | .done v => discard (input (.answer w.call (.ok v)))
      | .threw t => discard (input (.answer w.call (.error t)))
      | .waits => return ()

/-- Runs the commands of client code, and notes what each came to. -/
def runAll : Nat → Value → List Named → Run Unit
  | 0, _, _ => return ()
  | _, _, [] => return ()
  | fuel + 1, owner, .mk name command :: rest => do
    let r ← run fuel (.mk name command)
    look (.ran owner name r)
    runAll fuel owner rest

/-- Runs the commands of a batch. -/
def runBatch : Nat → List Named → Run (List Ran)
  | 0, _ => return []
  | _, [] => return []
  | fuel + 1, command :: rest => do
    let r ← run fuel command
    let more ← runBatch fuel rest
    return r :: more

/-- Runs a command. -/
def run : Nat → Named → Run Ran
  | 0, _ => return .value .undefined
  | fuel + 1, .mk name command => do
    let intent ← (prepare name command).run
    match intent with
    | .error f => return .failed f
    | .ok (.ran r) => return r
    | .ok (.operate label op close) =>
      let c ← input (.operate op)
      let result ← serve fuel c
      let r ← conclude label result
      close r
    | .ok (.batch commands) =>
      let answers ← runBatch fuel commands
      return .batch answers

end

end Session
end Script
end ThingHost
