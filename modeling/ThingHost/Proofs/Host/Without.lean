import ThingHost.Proofs.Bus.Without
import ThingHost.Proofs.Host.Attached
import ThingHost.Proofs.Host.Past

/-! A host without some subscriptions, those that relays have made. The host with them does all that the host without
    them does, and more: it calls brokers. While it does so it is behind, for the host without is past that turn already;
    what the host without has put out meanwhile is owed by the other. -/

namespace ThingHost

/-! ### What is seen

The client that is called does not say which of its subscriptions that is for, so this is taken from the code that
runs. -/

section Renumber
variable (gone : BusRef → List Nat)

def SubscriptionRef.renumber (s : SubscriptionRef) : SubscriptionRef := ⟨s.bus, ThingHost.renumber (gone s.bus) s.id⟩

def Result.renumber : Result → Result
  | .subscription s => .subscription (s.renumber gone)
  | r => r

def After.renumber : After → After
  | .returned r => .returned (r.map (Result.renumber gone))
  | after => after

def Output.renumber : Output → Output
  | .returned r => .returned (r.map (Result.renumber gone))
  | o => o

end Renumber

/-- The output is neither a line of the log nor an affair of brokers. -/
def Output.open : Output → Bool
  | .log _ => false
  | .answered _ => false
  | .callBroker .. => false
  | _ => true

/-- The subscription whose owner's code runs. -/
def Frame.whose? : Frame → Option SubscriptionRef
  | .next ref d _ => some ⟨ref, d.current.id⟩
  | .complete ref c _ => some ⟨ref, c.current.id⟩
  | .late s => some s
  | _ => none

/-- A broker's code runs. -/
def Frame.brokers : Frame → Bool
  | .relaying .. => true
  | .posting .. => true
  | _ => false

def Job.isPosted : Job → Bool
  | .posted .. => true
  | _ => false

/-- An output, with the subscription it is for. -/
structure Sign where
  output : Output
  whose : Option SubscriptionRef

def Sign.renumber (gone : BusRef → List Nat) (x : Sign) : Sign := ⟨x.output.renumber gone, x.whose.map (·.renumber gone)⟩

namespace Host

/-- What a step shows. -/
def Step.signs (s : Step) : List Sign :=
  (s.2.filter Output.open).map fun o => ⟨o, if o.calls then s.1.stack.head?.bind Frame.whose? else none⟩

theorem signs_prepend {out : List Output} (ho : ∀ o ∈ out, o.open = false) (s : Step) : (prepend out s).signs = s.signs := by
  have hnone : out.filter Output.open = [] := List.filter_eq_nil_iff.mpr (by simpa using ho)
  simp only [Step.signs, prepend, List.filter_append, hnone, List.nil_append]

theorem noted_hidden (thing : Option String) (notes : List Note) : ∀ o ∈ noted thing notes, o.open = false := by
  intro o ho
  obtain ⟨n, -, rfl⟩ := List.mem_map.mp ho
  rfl

end Host

/-! ### What is left out -/

def ExposedThing.without (gone : List Nat) (x : ExposedThing) : ExposedThing := { x with bus := x.bus.without gone }

def Frame.without (gone : BusRef → List Nat) : Frame → Frame
  | .next ref d after => .next ref (d.without (gone ref)) (after.renumber gone)
  | .complete ref c after => .complete ref (c.without (gone ref)) (after.renumber gone)
  | .late s => .late (s.renumber gone)
  | f => f

def Frame.countless : Frame → Frame
  | .next ref d after => .next ref d.uncounted after
  | .complete ref c after => .complete ref c.uncounted after
  | f => f

/-- The code that runs is not the broker's, nor that of a subscription which is left out. -/
structure Frame.Stays (gone : BusRef → List Nat) (f : Frame) : Prop where
  calm : f.brokers = false
  whose : ∀ s, f.whose? = some s → s.id ∉ gone s.bus

/-- A subscription is left out if a relay has made it. Relays do not care for completions. -/
structure Staff (gone : List Nat) (s : Sink Listener) : Prop where
  gone : s.id ∈ gone ↔ s.owner.isRelay = true
  silent : s.owner.isRelay = true → s.completes = false

section Staff
variable {gone : List Nat} {s : Sink Listener}

theorem Staff.relay (hs : Staff gone s) (hid : s.id ∈ gone) : ∃ broker thing, s.owner = .relay broker thing := by
  have howner := hs.gone.mp hid
  cases ho : s.owner with
  | client n => simp [ho, Listener.isRelay] at howner
  | relay broker thing => exact ⟨broker, thing, rfl⟩

theorem Staff.client (hs : Staff gone s) (hid : s.id ∉ gone) : ∃ n, s.owner = .client n := by
  cases ho : s.owner with
  | client n => exact ⟨n, rfl⟩
  | relay broker thing => exact absurd (hs.gone.mpr (by rw [ho]; rfl)) hid

theorem Staff.quiet (hs : Staff gone s) (hid : s.id ∈ gone) : s.completes = false := hs.silent (hs.gone.mp hid)

end Staff

namespace Host

/-- The host `p` is the host `h` without some subscriptions, while no broker's code runs. -/
structure Sheds (gone : BusRef → List Nat) (h p : Host) : Prop where
  servients : p.servients = h.servients
  things : p.things = h.things.mapIdx fun t x => x.without (gone (.own t))
  buses : p.buses = h.buses.mapIdx fun n b => b.without (gone (.alone n))
  calls : p.calls = h.calls
  queue : p.queue = h.queue.filter (!·.isPosted)
  stack : p.stack.map Frame.countless = h.stack.map (Frame.without gone)
  clock : p.clock = h.clock
  stays : ∀ f ∈ h.stack, f.Stays gone

/-- Where the host without some subscriptions stands when the host `h` has them, and what `h` owes. -/
inductive Stands (gone : BusRef → List Nat) (h : Host) : Host → List Sign → Prop where
  | level {p : Host} (sheds : Sheds gone h p) : Stands gone h p []
  /-- The broker takes a message for a relay; the host without is past the relay's turn. -/
  | behind {k q : Host} {n : Nat} {ref : BusRef} {d : Delivery Listener} {after : After} {b : Bus Listener}
      {x : Bus Listener × List Note × Turn Listener} (top : h = k.push (.relaying n ref d after))
      (turn : d.current.id ∈ gone ref) (bus : k.bus? ref = some b) (sheds : Sheds gone k q)
      (goes : Bus.outcome x = (b.without (gone ref)).onward d.event (kept (gone ref) d.rest)) :
      Stands gone h (q.onBus ref (after.renumber gone) x).1 (q.onBus ref (after.renumber gone) x).signs
  /-- The broker takes a message that was posted directly. -/
  | posting {k p : Host} {n : Nat} (top : h = k.push (.posting n)) (sheds : Sheds gone k p) : Stands gone h p []

/-- Two steps that show the same, but for what the first one owes. -/
def Tracks (gone : BusRef → List Nat) (s s' : Step) : Prop :=
  ∃ owed, Stands gone s.1 s'.1 owed ∧ s.signs.map (Sign.renumber gone) ++ owed = s'.signs

section Tracks
variable {gone : BusRef → List Nat} {s s' : Step}

theorem Tracks.of_sheds (e : Sheds gone s.1 s'.1) (hs : s.signs.map (Sign.renumber gone) = s'.signs) : Tracks gone s s' :=
  ⟨[], .level e, by rw [List.append_nil, hs]⟩

theorem Tracks.prepend (m : Tracks gone s s') {out out' : List Output} (ho : ∀ o ∈ out, o.open = false)
    (ho' : ∀ o ∈ out', o.open = false) : Tracks gone (prepend out s) (prepend out' s') := by
  obtain ⟨owed, hstands, hsigns⟩ := m
  exact ⟨owed, hstands, by rw [signs_prepend ho, signs_prepend ho', hsigns]⟩

theorem Tracks.noted (m : Tracks gone s s') (thing thing' : Option String) (notes notes' : List Note) :
    Tracks gone (Host.prepend (Host.noted thing notes) s) (Host.prepend (Host.noted thing' notes') s') :=
  m.prepend (noted_hidden thing notes) (noted_hidden thing' notes')

end Tracks

/-! ### Parts of a host -/

namespace Sheds
variable {gone : BusRef → List Nat} {h p : Host}

theorem thing (e : Sheds gone h p) (t : Nat) : p.things[t]? = h.things[t]?.map (·.without (gone (.own t))) := by
  rw [e.things, List.getElem?_mapIdx]

theorem bus? (e : Sheds gone h p) (ref : BusRef) : p.bus? ref = (h.bus? ref).map (·.without (gone ref)) := by
  cases ref with
  | own t =>
    simp only [Host.bus?, e.thing, Option.map_map]
    rfl
  | alone n => rw [Host.bus?, Host.bus?, e.buses, List.getElem?_mapIdx]

theorem setThing (e : Sheds gone h p) (t : Nat) (x : ExposedThing) :
    Sheds gone (h.setThing t x) (p.setThing t (x.without (gone (.own t)))) := by
  refine { e with things := ?_ }
  rw [Host.setThing, Host.setThing, e.things, List.mapIdx_set]

theorem setBus (e : Sheds gone h p) (ref : BusRef) (b : Bus Listener) :
    Sheds gone (h.setBus ref b) (p.setBus ref (b.without (gone ref))) := by
  cases ref with
  | own t =>
    simp only [Host.setBus, e.thing]
    cases h.things[t]? with
    | none => exact e
    | some x => exact e.setThing t { x with bus := b }
  | alone n =>
    refine { e with buses := ?_ }
    rw [Host.setBus, Host.setBus, e.buses, List.mapIdx_set]

theorem setServient (e : Sheds gone h p) (n : Nat) (s : Servient) : Sheds gone (h.setServient n s) (p.setServient n s) :=
  { e with servients := by rw [Host.setServient, Host.setServient, e.servients] }

theorem addThing (e : Sheds gone h p) {x : ExposedThing} (hx : x.bus = .new) (hnew : ∀ ref, 0 ∉ gone ref) :
    Sheds gone { h with things := h.things ++ [x] } { p with things := p.things ++ [x] } := by
  have hsame : ∀ t, x.without (gone (.own t)) = x := fun t => by
    rw [ExposedThing.without, hx, Bus.without_new (hnew _), ← hx]
  refine { e with things := ?_ }
  rw [e.things, List.mapIdx_append]
  simp [hsame]

theorem addBus (e : Sheds gone h p) (hnew : ∀ ref, 0 ∉ gone ref) :
    Sheds gone { h with buses := h.buses ++ [.new] } { p with buses := p.buses ++ [.new] } := by
  refine { e with buses := ?_ }
  rw [e.buses, List.mapIdx_append]
  simp [Bus.without_new (hnew _)]

theorem things_length (e : Sheds gone h p) : p.things.length = h.things.length := by rw [e.things, List.length_mapIdx]

theorem buses_length (e : Sheds gone h p) : p.buses.length = h.buses.length := by rw [e.buses, List.length_mapIdx]

theorem stack_isEmpty (e : Sheds gone h p) : p.stack.isEmpty = h.stack.isEmpty := by
  rw [← List.isEmpty_map (f := Frame.countless), e.stack, List.isEmpty_map]

theorem push (e : Sheds gone h p) {f f' : Frame} (hf : f'.countless = f.without gone) (hstays : f.Stays gone) :
    Sheds gone (h.push f) (p.push f') where
  __ := e
  stack := by rw [Host.push, Host.push, List.map_cons, List.map_cons, e.stack, hf]
  stays := List.forall_mem_cons.mpr ⟨hstays, e.stays⟩

/-- The code on top of one stack is that on top of the other, but for what is left out. -/
theorem pop (e : Sheds gone h p) {f : Frame} {stack : List Frame} (hs : h.stack = f :: stack) :
    ∃ f' stack', p.stack = f' :: stack' ∧ f'.countless = f.without gone ∧
      Sheds gone { h with stack } { p with stack := stack' } := by
  have hstack := e.stack
  rw [hs, List.map_cons] at hstack
  obtain ⟨f', stack', hs', hf, hrest⟩ := List.map_eq_cons_iff.mp hstack
  refine ⟨f', stack', hs', hf, { e with stack := hrest, stays := fun g hg => e.stays g ?_ }⟩
  exact hs ▸ List.mem_cons_of_mem f hg

theorem enqueue (e : Sheds gone h p) {j : Job} (hj : j.isPosted = false) : Sheds gone (h.enqueue j) (p.enqueue j) :=
  { e with queue := by rw [Host.enqueue, Host.enqueue, e.queue, List.filter_append]; simp [hj] }

theorem setProgress (e : Sheds gone h p) (n : Nat) (progress : Progress) :
    Sheds gone (h.setProgress n progress) (p.setProgress n progress) := by
  simp only [Host.setProgress, e.calls]
  cases h.calls[n]? with
  | none => exact e
  | some c => exact { e with calls := rfl }

theorem startCall (e : Sheds gone h p) (c : Call) : Sheds gone (h.startCall c) (p.startCall c) :=
  { e with calls := congrArg (· ++ [c]) e.calls }

theorem answered (e : Sheds gone h p) (n : Nat) (answer : Outcome) : Sheds gone (h.answered n answer) (p.answered n answer) :=
  (e.setProgress n .answered).enqueue rfl

/-! What brokers have to do with is no part of it. -/

theorem startPosting (e : Sheds gone h p) (thing : Value) (event : Event) : Sheds gone (h.startPosting thing event).1 p :=
  { e with }

theorem setStage (e : Sheds gone h p) (n : Nat) (stage : Stage) : Sheds gone (h.setStage n stage) p := by
  rw [Host.setStage]
  split
  · exact { e with }
  · exact e

theorem enqueuePosted (e : Sheds gone h p) (n : Nat) (failure : Option Thrown) : Sheds gone (h.enqueue (.posted n failure)) p :=
  { e with queue := by rw [Host.enqueue, e.queue, List.filter_append]; simp [Job.isPosted] }

theorem posted (e : Sheds gone h p) (n : Nat) (failure : Option Thrown) : Sheds gone (h.posted n failure).1 p := by
  rw [Host.posted]
  split
  · exact e
  · exact e.setStage n .over

theorem brokerDone (e : Sheds gone h p) (n : Nat) (r : Reply) : Sheds gone (h.brokerDone n r).1 p := by
  cases r with
  | done v => exact (e.setStage n .answered).enqueuePosted n none
  | threw t => exact e.posted n (some t)
  | promised => exact e.setStage n .waiting

end Sheds

/-! A bus that an operation has left is taken over once. -/

section SetBus
variable {h : Host} {ref : BusRef} {b : Bus Listener}

theorem setBus_self (hb : h.bus? ref = some b) : h.setBus ref b = h := by
  cases ref with
  | own t =>
    obtain ⟨x, hx, rfl⟩ := Option.map_eq_some_iff.mp hb
    obtain ⟨hlt, hxt⟩ := List.getElem?_eq_some_iff.mp hx
    simp only [setBus, hx, setThing]
    rw [← hxt, List.set_getElem_self]
  | alone n =>
    obtain ⟨hlt, rfl⟩ := List.getElem?_eq_some_iff.mp hb
    rw [setBus, List.set_getElem_self]

theorem onBus_setBus (h : Host) (ref : BusRef) (b : Bus Listener) (after : After)
    (x : Bus Listener × List Note × Turn Listener) : (h.setBus ref b).onBus ref after x = h.onBus ref after x := by
  cases ref with
  | own t =>
    rcases hx : h.things[t]? with _ | y
    · simp only [setBus, hx]
    · obtain ⟨hlt, -⟩ := List.getElem?_eq_some_iff.mp hx
      simp [onBus, setBus, busThing, setThing, hlt, ExposedThing.id]
  | alone n => simp [onBus, setBus, busThing]

end SetBus

theorem posted_hidden (h : Host) (n : Nat) (failure : Option Thrown) : ∀ o ∈ (h.posted n failure).2, o.open = false := by
  rw [posted]
  split
  · simp
  · intro o ho
    rcases List.mem_append.mp ho with ho | ho
    · exact noted_hidden _ _ o ho
    · rw [List.mem_singleton.mp ho]
      rfl

theorem brokerDone_hidden (h : Host) (n : Nat) (r : Reply) : ∀ o ∈ (h.brokerDone n r).2, o.open = false := by
  cases r with
  | threw t => exact posted_hidden h n (some t)
  | _ => simp [brokerDone]

end Host
end ThingHost
