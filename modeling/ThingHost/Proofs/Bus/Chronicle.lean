import ThingHost.Proofs.Bus.Live

/-! What happens on a bus, written down as it happens: the events it takes, the delivery of each of them
    turn by turn, the code that is called, and the subscriptions that are made. A bus forgets all this; the
    laws of delivery and completion are about it. -/

namespace ThingHost.Bus

variable {κ : Type}

/-- The delivery of an event, as far as it has come. -/
structure Round (κ : Type) where
  event : Event
  /-- The subscriptions that were attached when it started. -/
  audience : List (Sink κ)
  /-- The turns that have been taken: whose they were, and whether it was open then. -/
  turns : List (Sink κ × Bool)

namespace Round

/-- Everybody in the audience had a turn. -/
def Finished (r : Round κ) : Prop := r.turns.map (·.1) = r.audience

/-- The subscription of a number is open when its turn comes, and wants the event. -/
def reaches (r : Round κ) (id : Nat) : Bool := r.turns.any fun t => t.1.id = id && (t.2 && wants t.1 r.event)

end Round

/-- The delivery of an event that calls nobody. -/
def wholeRound (b : Bus κ) (e : Event) : Round κ := ⟨e, b.sinks, b.sinks.map (turn b.closed)⟩

/-- The deliveries that draining a queue starts. -/
def roundsOf (b : Bus κ) : List Event → List (Round κ)
  | [] => []
  | e :: queue =>
    if b.completed then []
    else ⟨e, b.sinks, turns b.closed e b.sinks⟩ :: if b.sinks.any (calls b.closed e) then [] else roundsOf b queue

/-- Adds turns to the last delivery. -/
def extend (more : List (Sink κ × Bool)) : List (Round κ) → List (Round κ)
  | [] => []
  | [r] => [{ r with turns := r.turns ++ more }]
  | r :: rest => r :: extend more rest

/-- The deliveries so far, after the code of a subscription is done and its delivery goes on. -/
def roundsAfter (b : Bus κ) (d : Delivery κ) (before : List (Round κ)) : List (Round κ) :=
  extend (turns b.closed d.event d.rest) before ++
    if d.rest.any (calls b.closed d.event) then [] else roundsOf b b.pending

namespace Live

/-- The deliveries so far, after a move. -/
def rounds (l : Live κ) (before : List (Round κ)) : Move κ → List (Round κ)
  | .publish e =>
    if l.bus.completed || l.bus.draining then before else before ++ roundsOf l.bus (l.bus.pending ++ [e])
  | .done _ =>
    match l.running with
    | .next d :: _ => roundsAfter l.bus d before
    | _ => before
  | _ => before

/-- The event that a move makes the bus take. -/
def taken (l : Live κ) : Move κ → Option Event
  | .publish e => if l.bus.completed then none else some e
  | _ => none

/-- The subscription that a move makes. -/
def made (l : Live κ) : Move κ → Option (Sink κ)
  | .attach screen completes owner => some ⟨l.bus.nextId, screen, completes, owner⟩
  | _ => none

end Live

namespace Running

/-- The event that code is called for, if it is that of the subscription of a number. -/
def for? (id : Nat) : Running κ → Option Event
  | .next d => if d.current.id = id then some d.event else none
  | _ => none

/-- The subscription that the completion tells. -/
def told? : Running κ → Option Nat
  | .complete t => some t.current.id
  | _ => none

/-- The subscription that is told when it is made. -/
def greeted? : Running κ → Option Nat
  | .late id => some id
  | _ => none

/-- The subscription that is told, by the completion or when it is made. -/
def notified? (r : Running κ) : Option Nat := r.told?.or r.greeted?

end Running

structure Chronicle (κ : Type) where
  live : Live κ
  /-- The events that were published while the bus was not completed. -/
  published : List Event
  rounds : List (Round κ)
  /-- The code that was called. -/
  started : List (Running κ)
  /-- The subscriptions that were made before the completion. -/
  early : List (Sink κ)
  /-- The subscriptions that were made after the completion. -/
  latecomers : List (Sink κ)
  /-- The subscriptions that were attached when the completion took effect. -/
  leaving : List (Sink κ)

namespace Chronicle

def new : Chronicle κ := ⟨.new, [], [], [], [], [], []⟩

def step (c : Chronicle κ) (m : Move κ) : Chronicle κ where
  live := c.live.step m
  published := c.published ++ (c.live.taken m).toList
  rounds := c.live.rounds c.rounds m
  started := c.started ++ (c.live.started m).toList
  early := c.early ++ if c.live.bus.completed then [] else (c.live.made m).toList
  latecomers := c.latecomers ++ if c.live.bus.completed then (c.live.made m).toList else []
  leaving := match m with
    | .complete => if c.live.bus.completed then c.leaving else c.live.bus.sinks
    | _ => c.leaving

/-- What happens in the course of some moves. -/
def run (c : Chronicle κ) (moves : List (Move κ)) : Chronicle κ := moves.foldl step c

/-- Every subscription that was made. -/
def attached (c : Chronicle κ) : List (Sink κ) := c.early ++ c.latecomers

/-- The events that the subscription of a number received. -/
def received (c : Chronicle κ) (id : Nat) : List Event := c.started.filterMap (Running.for? id)

/-- The subscriptions that were told by the completion. -/
def told (c : Chronicle κ) : List Nat := c.started.filterMap Running.told?

/-- The subscriptions that were told when they were made. -/
def greeted (c : Chronicle κ) : List Nat := c.started.filterMap Running.greeted?

end Chronicle

section Step
variable {c : Chronicle κ} {m : Move κ}

theorem received_step (m : Move κ) (id : Nat) :
    (c.step m).received id = c.received id ++ (c.live.started m).toList.filterMap (Running.for? id) :=
  List.filterMap_append

theorem told_step (m : Move κ) :
    (c.step m).told = c.told ++ (c.live.started m).toList.filterMap Running.told? :=
  List.filterMap_append

theorem greeted_step (m : Move κ) :
    (c.step m).greeted = c.greeted ++ (c.live.started m).toList.filterMap Running.greeted? :=
  List.filterMap_append

theorem received_of_quiet (hs : ∀ d, c.live.started m ≠ some (.next d)) (id : Nat) :
    (c.step m).received id = c.received id := by
  rw [received_step]
  cases h : c.live.started m with
  | none => exact List.append_nil _
  | some r =>
    cases r with
    | next d => exact absurd h (hs d)
    | _ => exact List.append_nil _

theorem told_of_quiet (hs : ∀ t, c.live.started m ≠ some (.complete t)) : (c.step m).told = c.told := by
  rw [told_step]
  cases h : c.live.started m with
  | none => exact List.append_nil _
  | some r =>
    cases r with
    | complete t => exact absurd h (hs t)
    | _ => exact List.append_nil _

theorem greeted_of_quiet (hs : ∀ id, c.live.started m ≠ some (.late id)) : (c.step m).greeted = c.greeted := by
  rw [greeted_step]
  cases h : c.live.started m with
  | none => exact List.append_nil _
  | some r =>
    cases r with
    | late id => exact absurd h (hs id)
    | _ => exact List.append_nil _

theorem step_early (hm : c.live.made m = none) : (c.step m).early = c.early := by simp [Chronicle.step, hm]

theorem early_sublist (m : Move κ) : c.early.Sublist (c.step m).early := List.sublist_append_left _ _

theorem step_latecomers (hm : c.live.made m = none) : (c.step m).latecomers = c.latecomers := by
  simp [Chronicle.step, hm]

theorem step_attached (hm : c.live.made m = none) : (c.step m).attached = c.attached := by
  simp only [Chronicle.attached, step_early hm, step_latecomers hm]

theorem step_published (hm : c.live.taken m = none) : (c.step m).published = c.published := by
  simp [Chronicle.step, hm]

end Step

end ThingHost.Bus
