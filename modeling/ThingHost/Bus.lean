import ThingHost.Event
import ThingHost.Log

/-! A bus: one ordered channel to any number of subscriptions.

    Publishing hands an event to the subscriptions that are attached when its delivery starts, one
    after another. The code behind a subscription may use the bus again: an event published while
    another is being delivered waits in a queue, a subscription attached meanwhile waits for the next
    event, and one closed meanwhile is passed over.

    A bus never calls anybody. Each of its operations runs up to the point where the code of a
    subscription has to run, and says so in a `Turn`; when that code has returned or thrown, the turn
    is handed back and the operation goes on. `κ` says whose code a subscription is. -/

namespace ThingHost

/-- What a subscription makes of an event before any code of its owner runs. -/
inductive Screening where
  /-- The event is not for it. -/
  | unwanted
  /-- Looking at the event failed. -/
  | faulty (thrown : Thrown)
  /-- Its owner is to be called. -/
  | wanted
  /-- The event is dealt with on the spot. -/
  | handled (note : Note)

structure Sink (κ : Type) where
  id : Nat
  screen : Event → Screening
  /-- The owner wants to know of the bus's completion. -/
  completes : Bool
  owner : κ

structure Bus (κ : Type) where
  /-- The open subscriptions, in the order in which they were attached. -/
  sinks : List (Sink κ)
  /-- Events published and not yet being delivered. -/
  pending : List Event
  draining : Bool
  completed : Bool
  nextId : Nat
  /-- The subscriptions that are closed. -/
  closed : List Nat

/-- A delivery that has reached the subscription `current`. -/
structure Delivery (κ : Type) where
  event : Event
  current : Sink κ
  rest : List (Sink κ)
  /-- How many subscriptions took the event before this one. -/
  taken : Nat

/-- A completion that has reached the subscription `current`. -/
structure Completion (κ : Type) where
  current : Sink κ
  rest : List (Sink κ)
  total : Nat

/-- What has to happen next. -/
inductive Turn (κ : Type) where
  /-- The operation is over. -/
  | over
  /-- The current subscription's owner is handed the event. -/
  | next (d : Delivery κ)
  /-- The current subscription's owner is told of the completion. -/
  | complete (c : Completion κ)

namespace Bus

variable {κ : Type}

def new : Bus κ := ⟨[], [], false, false, 1, []⟩

def isClosed (b : Bus κ) (id : Nat) : Bool := b.closed.contains id

/-! ### Delivering -/

/-- Walks on through the subscriptions an event is for, up to the first whose owner has to be called;
    else counts those that took it. -/
def fanOut (closed : List Nat) (e : Event) (taken : Nat) :
    List (Sink κ) → List Note × (Delivery κ ⊕ Nat)
  | [] => ([], .inr taken)
  | s :: rest =>
    if closed.contains s.id then fanOut closed e taken rest
    else
      match s.screen e with
      | .unwanted => fanOut closed e (taken + 1) rest
      | .faulty t =>
        let (notes, reached) := fanOut closed e taken rest
        (.observerThrew t e.name s.id :: notes, reached)
      | .handled note =>
        let (notes, reached) := fanOut closed e (taken + 1) rest
        (note :: notes, reached)
      | .wanted => ([], .inl ⟨e, s, rest, taken⟩)

/-- The bus with nothing being delivered and nothing waiting. -/
def idle (b : Bus κ) : Bus κ := { b with draining := false, pending := [] }

/-- Delivers the events of a queue, one after another. A completed bus drops them. -/
def drain (b : Bus κ) : List Event → Bus κ × List Note × Turn κ
  | [] => (b.idle, [], .over)
  | e :: queue =>
    if b.completed then (b.idle, [], .over)
    else
      match fanOut b.closed e 0 b.sinks with
      | (notes, .inl d) => ({ b with draining := true, pending := queue }, notes, .next d)
      | (notes, .inr taken) =>
        let (b, more, turn) := drain b queue
        (b, notes ++ .eventPublished e.name taken :: more, turn)

/-- Publishes an event: at once if nothing is being delivered, after what is otherwise. -/
def publish (b : Bus κ) (e : Event) : Bus κ × List Note × Turn κ :=
  if b.completed then (b, [.eventDropped e.name], .over)
  else if b.draining then ({ b with pending := b.pending ++ [e] }, [], .over)
  else drain b (b.pending ++ [e])

/-- Goes on after the owner of a subscription was handed an event. -/
def afterNext (b : Bus κ) (d : Delivery κ) (thrown : Option Thrown) : Bus κ × List Note × Turn κ :=
  let noted := match thrown with
    | some t => [.observerThrew t d.event.name d.current.id]
    | none => []
  let taken := if thrown.isSome then d.taken else d.taken + 1
  match fanOut b.closed d.event taken d.rest with
  | (notes, .inl d) => (b, noted ++ notes, .next d)
  | (notes, .inr taken) =>
    let (b, more, turn) := drain b b.pending
    (b, noted ++ notes ++ .eventPublished d.event.name taken :: more, turn)

/-! ### Completing -/

/-- Closes subscriptions one after another, up to the first whose owner has to be told. -/
def closeAll (b : Bus κ) (total : Nat) : List (Sink κ) → Bus κ × List Note × Turn κ
  | [] => (b, [.busCompleted total], .over)
  | s :: rest =>
    let b := { b with closed := s.id :: b.closed }
    if s.completes then (b, [], .complete ⟨s, rest, total⟩) else closeAll b total rest

/-- Completes the bus: every subscription is closed and nothing is delivered any more. -/
def complete (b : Bus κ) : Bus κ × List Note × Turn κ :=
  if b.completed then (b, [], .over)
  else closeAll { b with completed := true, sinks := [] } b.sinks.length b.sinks

/-- Goes on after the owner of a subscription was told of the completion. -/
def afterComplete (b : Bus κ) (c : Completion κ) (thrown : Option Thrown) :
    Bus κ × List Note × Turn κ :=
  let noted := match thrown with
    | some t => [.completionThrew t c.current.id]
    | none => []
  let (b, notes, turn) := closeAll b c.total c.rest
  (b, noted ++ notes, turn)

/-! ### Subscribing -/

/-- Attaches a subscription. On a completed bus it is closed from the start; if its owner completes,
    the caller has to tell it before the subscription is handed out. -/
def attach (b : Bus κ) (screen : Event → Screening) (completes : Bool) (owner : κ) : Bus κ × Sink κ :=
  let s : Sink κ := ⟨b.nextId, screen, completes, owner⟩
  let b := { b with nextId := b.nextId + 1 }
  if b.completed then ({ b with closed := s.id :: b.closed }, s)
  else ({ b with sinks := b.sinks ++ [s] }, s)

/-- Closes a subscription for good. One that was never made cannot be closed. -/
def unsubscribe (b : Bus κ) (id : Nat) : Bus κ :=
  if b.nextId ≤ id || b.isClosed id then b
  else { b with closed := id :: b.closed, sinks := b.sinks.filter (·.id ≠ id) }

end Bus
end ThingHost
