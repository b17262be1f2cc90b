import ThingHost.Http.Exchange

/-! Scripts: what clients of a host do, written down in advance. A script is a list of commands; an
    observer's script says what it does on which event, a handler's script how it answers. What a
    command acts on goes by a label that the script chose. Names of clients are only shown, and names of
    interactions are passed on to the host as they are, so both may be any value. -/

namespace ThingHost
namespace Script

/-- Which events a subscription without a topic is for: all that have the given type and name, or none
    because looking at one fails. -/
inductive Predicate where
  | matching (type name : Option Value)
  | throwing (t : Thrown)

/-- Nothing is wanted, or just this value. -/
def agrees (wanted : Option Value) (v : Value) : Bool := wanted.all (·.same v)

def Predicate.guard (p : Predicate) (e : Event) : Except Thrown Bool :=
  match p with
  | .matching type name => .ok (agrees type (.string e.typeName) && agrees name e.name)
  | .throwing t => .error t

/-- What a subscription is made to. -/
inductive Target where
  | event (thing : String) (name : Value)
  | property (thing : String) (name : Value)
  | description (thing : String)
  | all (thing : String) (predicate : Predicate)
  | bus (bus : String) (predicate : Predicate)

mutual

/-- One thing that a client does. -/
inductive Command where
  | newServient (label : String)
  | produce (servient label : String) (definition : Value)
  | newThing (servient label id name : String) (description : Option String)
  | register (servient thing : String)
  | enable (servient : String) (id : Value)
  | disable (servient : String) (id : Value)
  | removeThing (servient : String) (id : Value)
  | get (servient : String) (id : Value)
  | getByUrl (servient : String) (urlName : Value)
  | isEnabled (servient : String) (id : Value)
  | list (servient : String)
  | listEnabled (servient : String)
  | info (thing : String)
  | equals (thing other : String)
  | expose (thing : String)
  | destroy (thing : String)
  | describe (thing : String)
  /-- Lists the interactions of some kinds. -/
  | interactions (thing : String) (kinds : List InteractionKind)
  | add (thing : String) (kind : InteractionKind) (name definition : Value) (handler : Option Handler)
  | remove (thing : String) (kind : InteractionKind) (name : Value)
  | setHandler (thing : String) (kind : CallKind) (handler : Handler) (name : Option Value)
  | emit (thing : String) (name payload : Value)
  | call (thing : String) (ask : Ask)
  | subscribe (target : Target) (label : Value) (observer : Observer)
  | unsubscribe (label : String)
  | closed (label : String)
  | newBus (label : String)
  | publish (bus : String) (e : Event)
  | complete (bus : String)
  | relay (thing label : String) (failure : Option String)
  | post (thing : Value) (e : Event) (failure : Option String)
  | setClock (ms : Int)
  | release (gate : String)
  | batch (commands : List Named)
  /-- Sends a request, if one can be made of what is given. -/
  | request (servient : String) (r : Except Fault Http.Request)
  | unknown
  /-- Something that lacks a part. -/
  | incomplete (f : Fault)

/-- A command under the name that reports give it. -/
inductive Named where
  | mk (name : Value) (command : Command)

/-- What an observer does on an event that fits: the one of a number, of a type, of a name. -/
inductive Reaction where
  | mk (nth : Option Nat) (type name : Option Value) (commands : List Named) (throws : Option Thrown)

inductive Observer where
  | mk (completes : Bool) (reactions : List Reaction) (last : List Named) (throws : Option Thrown)

/-- How a handler answers. -/
inductive Behaviour where
  | done (v : Value)
  | throws (t : Thrown)
  /-- With all its arguments. -/
  | echo
  /-- With one of its arguments. -/
  | argument (n : Nat)
  /-- After some commands. -/
  | after (commands : List Named) (next : Behaviour)
  /-- Once a gate is open. -/
  | gate (label : String) (next : Behaviour)

inductive Handler where
  | mk (id : Value) (behaviour : Behaviour)

end

/-! ### Reports -/

/-- Why a command did not come to an end of its own. -/
inductive Failure where
  | thrown (t : Thrown)
  | noSuchLabel (label : String)
  | unknownCommand (name : Value)
  deriving Repr

/-- What a command comes to at once: a value, a failure, or a call that goes on under a label. -/
inductive Ran where
  | value (v : Value)
  | failed (f : Failure)
  | started (n : Nat)
  | batch (answers : List Ran)
  deriving Repr

/-- Something that a script saw. -/
inductive Sight where
  | next (observer : Value) (e : Event)
  | complete (observer : Value)
  /-- A command that client code ran. -/
  | ran (owner name : Value) (r : Ran)
  | called (handler : Value) (arguments : List Value)
  | posted (text : String)
  deriving Repr

/-- How a command stands when nothing is left to do. -/
inductive Answer where
  | value (v : Value)
  | failed (f : Failure)
  /-- The call still waits. -/
  | pending (n : Nat)
  | batch (answers : List Answer)
  deriving Repr

/-- The report on a command: how it stands, the calls that settled since the last report, what was seen
    and what was logged. -/
structure Report where
  answer : Answer
  settled : List (Nat × Outcome)
  seen : List Sight
  log : List LogLine

end Script
end ThingHost
