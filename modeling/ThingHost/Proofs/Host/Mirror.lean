import ThingHost.Proofs.Host.Naming
import ThingHost.Proofs.Host.Registry
import ThingHost.Proofs.Host.View

/-! A host that is part of another does what the other does. If both take the same input, under their own numbers, both
    put out the same, and the one is part of the other again. Only the registry is not a part: what a servient does
    depends on all that it has registered. -/

namespace ThingHost

theorem Input.registers_rename (ρ : Naming) (i : Input) : (i.rename ρ).registers = i.registers := by
  cases i with
  | operate op => cases op <;> rfl
  | _ => rfl

namespace Host

/-- Two hosts do the same, and the first is part of the second after it. -/
structure Mirrors (ρ : Naming) (b : Host) (s s' : Step) : Prop where
  embeds : Embeds ρ b s.1 s'.1
  outputs : s'.2 = s.2.map (Output.rename ρ)

section Outputs
variable {ρ : Naming} {b : Host} {s s' : Step}

theorem noted_rename (ρ : Naming) (thing : Option String) (notes : List Note) :
    (noted thing notes).map (Output.rename ρ) = noted thing notes := by
  rw [noted, List.map_map]
  rfl

theorem Mirrors.prepend {out out' : List Output} (m : Mirrors ρ b s s') (ho : out' = out.map (Output.rename ρ)) :
    Mirrors ρ b (prepend out s) (prepend out' s') :=
  ⟨m.embeds, by rw [Host.prepend, Host.prepend, m.outputs, ho, List.map_append]⟩

theorem Mirrors.noted (m : Mirrors ρ b s s') (thing : Option String) (notes : List Note) :
    Mirrors ρ b (Host.prepend (Host.noted thing notes) s) (Host.prepend (Host.noted thing notes) s') :=
  m.prepend (noted_rename ρ thing notes).symm

end Outputs

namespace Embeds
variable {ρ : Naming} {b p h : Host}

/-! ### Going on -/

theorem returns (e : Embeds ρ b p h) (r : Except Thrown Result) :
    Mirrors ρ b (p.returns r) (h.returns (r.map (Result.rename ρ))) := ⟨e, rfl⟩

theorem settle (e : Embeds ρ b p h) (n : Nat) (o : Outcome) : Mirrors ρ b (p.settle n o) (h.settle (ρ.call n) o) :=
  ⟨e.setProgress n (.settled o), rfl⟩

theorem finish (e : Embeds ρ b p h) (after : After) : Mirrors ρ b (p.finish after) (h.finish (after.rename ρ)) := by
  cases after with
  | returned r => exact e.returns r
  | settled n o => exact e.settle n o

theorem follow (e : Embeds ρ b p h) (ref : BusRef) (after : After) (turn : Turn Listener) :
    Mirrors ρ b (p.follow ref after turn) (h.follow (ref.rename ρ) (after.rename ρ) turn) := by
  rcases turn with _ | d | c
  · exact e.finish after
  · simp only [Host.follow]
    cases d.current.owner with
    | client n => exact ⟨e.push (.next ref d after), rfl⟩
    | relay broker thing =>
      obtain ⟨hstart, hnumber⟩ := e.startPosting (.string thing) d.event
      dsimp only
      rw [hnumber, hstart.clock]
      exact ⟨hstart.push (.relaying _ ref d after), rfl⟩
  · simp only [Host.follow]
    cases c.current.owner with
    | client n => exact ⟨e.push (.complete ref c after), rfl⟩
    | relay broker thing => exact e.finish after

theorem onBus (e : Embeds ρ b p h) (ref : BusRef) (after : After) (r : Bus Listener × List Note × Turn Listener) :
    Mirrors ρ b (p.onBus ref after r) (h.onBus (ref.rename ρ) (after.rename ρ) r) := by
  rw [Host.onBus, Host.onBus, e.busThing]
  exact ((e.setBus ref r.1).follow ref after r.2.2).noted _ _

theorem publish (e : Embeds ρ b p h) (ref : BusRef) (event : Event) (after : After) :
    Mirrors ρ b (p.publish ref event after) (h.publish (ref.rename ρ) event (after.rename ρ)) := by
  rw [Host.publish, Host.publish, e.bus?]
  cases p.bus? ref with
  | none => exact e.finish after
  | some bus => exact e.onBus ref after _

theorem complete (e : Embeds ρ b p h) (ref : BusRef) (after : After) :
    Mirrors ρ b (p.complete ref after) (h.complete (ref.rename ρ) (after.rename ρ)) := by
  rw [Host.complete, Host.complete, e.bus?]
  cases p.bus? ref with
  | none => exact e.finish after
  | some bus => exact e.onBus ref after _

/-! ### Things -/

theorem withThing (e : Embeds ρ b p h) (t : Nat) {f g : ExposedThing → Step} (hf : ∀ x, Mirrors ρ b (f x) (g x)) :
    Mirrors ρ b (p.withThing t f) (h.withThing (ρ.thing t) g) := by
  rw [Host.withThing, Host.withThing, e.thing]
  cases p.things[t]? with
  | none => exact ⟨e, rfl⟩
  | some x => exact hf x

theorem announce (e : Embeds ρ b p h) (t : Nat) (note : Note) (r : Except Thrown (ExposedThing × Event)) :
    Mirrors ρ b (p.announce t note r) (h.announce (ρ.thing t) note r) := by
  cases r with
  | error thrown => exact e.returns (.error thrown)
  | ok r => exact ((e.setThing t r.1).publish (.own t) r.2 (.returned (.ok .none))).noted _ _

theorem newThing (e : Embeds ρ b p h) (x : ExposedThing) :
    Mirrors ρ b (Host.returns { p with things := p.things ++ [x] } (.ok (.thing p.things.length)))
      (Host.returns { h with things := h.things ++ [x] } (.ok (.thing h.things.length))) := by
  have hnew : Embeds ρ b { p with things := p.things ++ [x] } { h with things := h.things ++ [x] } :=
    { e with things := e.things.append x }
  rw [← e.things.next]
  exact hnew.returns (.ok (.thing p.things.length))

/-! ### Calls -/

theorem call_eq (e : Embeds ρ b p h) : h.calls.length = ρ.call p.calls.length := e.calls.next.symm

theorem makeCall (e : Embeds ρ b p h) (t : Nat) (ask : Ask) :
    Mirrors ρ b (p.call t ask) (h.call (ρ.thing t) ask) := by
  refine e.withThing t fun x => ?_
  cases x.accept ask with
  | error refused =>
    dsimp only
    rw [e.call_eq]
    exact ((e.startCall ⟨t, ask, none, .settled (refuse refused)⟩).returns (.ok (.call _))).prepend rfl
  | ok r =>
    obtain ⟨i, handler⟩ := r
    have hstart := e.startCall ⟨t, ask, some (i.serial, handler), .running⟩
    dsimp only
    rw [e.call_eq]
    refine Mirrors.noted ?_ _ _
    cases handler with
    | client c => exact ⟨hstart.push (.handler _), rfl⟩
    | broken => exact (hstart.answered _ _).returns (.ok (.call _))
    | standard => exact ((hstart.setThing t _).answered _ _).returns (.ok (.call _))

theorem resume (e : Embeds ρ b p h) (n : Nat) (answer : Outcome) :
    Mirrors ρ b (p.resume n answer) (h.resume (ρ.call n) answer) := by
  rw [Host.resume, Host.resume, e.call]
  cases p.calls[n]? with
  | none => exact ⟨e, rfl⟩
  | some c =>
    obtain ⟨t, ask, accepted, progress⟩ := c
    cases answer with
    | error thrown => exact e.settle n (.error thrown)
    | ok v =>
      cases ask with
      | read property => exact e.settle n (.ok v)
      | write property value => exact e.publish (.own t) (.propertyChange property value) (.settled n (.ok .undefined))
      | invoke action arguments => exact e.publish (.own t) (.actionInvocation action v) (.settled n (.ok v))

/-! ### Subscriptions -/

theorem attach (e : Embeds ρ b p h) (ref : BusRef) (screen : Event → Screening) (completes : Bool) (l : Listener) :
    Mirrors ρ b (p.attach ref screen completes l) (h.attach (ref.rename ρ) screen completes l) := by
  rw [Host.attach, Host.attach, e.bus?]
  cases p.bus? ref with
  | none => exact ⟨e, rfl⟩
  | some bus =>
    have hset := e.setBus ref (bus.attach screen completes l).1
    dsimp only
    cases bus.completed && completes with
    | false => exact hset.returns (.ok (.subscription ⟨ref, _⟩))
    | true =>
      cases l with
      | client n => exact ⟨hset.push (.late ⟨ref, _⟩), rfl⟩
      | relay broker thing => exact hset.returns (.ok (.subscription ⟨ref, _⟩))

theorem subscribe (e : Embeds ρ b p h) (source : Source) (client : Nat) (completes : Bool) :
    Mirrors ρ b (p.subscribe source client completes) (h.subscribe (source.rename ρ) client completes) := by
  cases source with
  | topic t topic =>
    refine e.withThing t fun x => ?_
    cases x.screen topic with
    | error refused => exact e.returns (refuse refused)
    | ok screen => exact e.attach (.own t) screen completes (.client client)
  | bus n guard => exact e.attach (.alone n) _ completes (.client client)

theorem unsubscribe (e : Embeds ρ b p h) (s : SubscriptionRef) :
    Mirrors ρ b (p.unsubscribe s) (h.unsubscribe (s.rename ρ)) := by
  rw [Host.unsubscribe, Host.unsubscribe, SubscriptionRef.rename, e.bus?]
  cases p.bus? s.bus with
  | none => exact ⟨e, rfl⟩
  | some bus => exact (e.setBus s.bus _).returns (.ok .none)

/-! ### Postings -/

theorem post (e : Embeds ρ b p h) (broker : Nat) (thing : Value) (event : Event) :
    Mirrors ρ b (p.post broker thing event) (h.post broker thing event) := by
  obtain ⟨hstart, hnumber⟩ := e.startPosting thing event
  rw [Host.post, Host.post, e.clock]
  cases Instant.isValid p.clock with
  | false => exact e.returns (.error (.fault .invalidTime))
  | true =>
    simp only [Bool.not_true, Bool.false_eq_true, if_false]
    rw [hnumber, hstart.clock]
    cases Relay.writable event with
    | true => exact ⟨hstart.push (.posting _), rfl⟩
    | false =>
      refine ((hstart.setStage _ .over).returns (.ok (.posting _))).prepend ?_
      rw [List.map_append, noted_rename]
      rfl

theorem posted (e : Embeds ρ b p h) (n : Nat) (failure : Option Thrown) :
    Mirrors ρ b (p.posted n failure) (h.posted (ρ.posting n) failure) := by
  rw [Host.posted, Host.posted, e.posting]
  cases p.postings[n]? with
  | none => exact ⟨e, rfl⟩
  | some posting =>
    refine ⟨e.setStage n .over, ?_⟩
    rw [List.map_append, noted_rename]
    rfl

theorem brokerDone (e : Embeds ρ b p h) (n : Nat) (r : Reply) :
    Mirrors ρ b (p.brokerDone n r) (h.brokerDone (ρ.posting n) r) := by
  cases r with
  | done v => exact ⟨(e.setStage n .answered).enqueue (.posted n none), rfl⟩
  | threw thrown => exact e.posted n (some thrown)
  | promised => exact ⟨e.setStage n .waiting, rfl⟩

/-! ### Inputs -/

theorem operate (e : Embeds ρ b p h) {op : Operation} (hop : op.registers = false) :
    Mirrors ρ b (p.operate op) (h.operate (op.rename ρ)) := by
  cases op with
  | newThing servient id name description => exact e.newThing _
  | newBus =>
    have hnew : Embeds ρ b { p with buses := p.buses ++ [.new] } { h with buses := h.buses ++ [.new] } :=
      { e with buses := congrArg (· ++ [.new]) e.buses }
    show Mirrors ρ b _ (Host.returns _ (.ok (.bus h.buses.length)))
    rw [e.buses] at hnew ⊢
    exact hnew.returns (.ok (.bus p.buses.length))
  | add t kind name definition handler => exact e.withThing t fun x => e.announce t _ _
  | remove t kind name => exact e.withThing t fun x => e.announce t _ _
  | setHandler t kind handler name =>
    refine e.withThing t fun x => ?_
    cases x.setHandler kind (.client handler) name with
    | error refused => exact e.returns (refuse refused)
    | ok y => exact (e.setThing t y).returns (.ok .none)
  | emit t name payload =>
    refine e.withThing t fun x => ?_
    cases x.emitted name payload with
    | error refused => exact e.returns (refuse refused)
    | ok event => exact e.publish (.own t) event (.returned (.ok .none))
  | call t ask => exact e.makeCall t ask
  | subscribe source client completes => exact e.subscribe source client completes
  | unsubscribe s => exact e.unsubscribe s
  | publish n event => exact e.publish (.alone n) event (.returned (.ok .none))
  | complete n => exact e.complete (.alone n) (.returned (.ok .none))
  | relay t broker => exact e.withThing t fun x => e.attach (.own t) _ false _
  | post broker thing event => exact e.post broker thing event
  | _ => cases hop

theorem replied (e : Embeds ρ b p h) (r : Reply) (f : Frame) :
    Mirrors ρ b (p.replied r f) (h.replied r (f.rename ρ)) := by
  cases f with
  | next ref d after =>
    simp only [Frame.rename, Host.replied, e.bus?]
    cases p.bus? ref with
    | none => exact ⟨e, rfl⟩
    | some bus => exact e.onBus ref after _
  | complete ref c after =>
    simp only [Frame.rename, Host.replied, e.bus?]
    cases p.bus? ref with
    | none => exact ⟨e, rfl⟩
    | some bus => exact e.onBus ref after _
  | late s =>
    cases r with
    | threw thrown => exact e.returns (.error thrown)
    | _ => exact e.returns (.ok (.subscription s))
  | handler n =>
    cases r with
    | done v => exact (e.answered n (.ok v)).returns (.ok (.call n))
    | threw thrown => exact (e.answered n (.error thrown)).returns (.ok (.call n))
    | promised => exact (e.setProgress n .waiting).returns (.ok (.call n))
  | relaying n ref d after =>
    -- The delivery goes on in the host that the broker's answer has left.
    have hdone := e.brokerDone n r
    simp only [Frame.rename, Host.replied, hdone.embeds.bus?]
    refine Mirrors.prepend ?_ hdone.outputs
    cases (p.brokerDone n r).1.bus? ref with
    | none => exact ⟨hdone.embeds, rfl⟩
    | some bus => exact hdone.embeds.onBus ref after _
  | posting n =>
    have hdone := e.brokerDone n r
    exact (hdone.embeds.returns (.ok (.posting n))).prepend hdone.outputs
  | woken => exact ⟨e, rfl⟩

theorem work (e : Embeds ρ b p h) : Mirrors ρ b p.work h.work := by
  rw [Host.work, Host.work, e.queue]
  cases hq : p.queue with
  | nil => exact ⟨e, rfl⟩
  | cons job queue =>
    have hrest : Embeds ρ b { p with queue } { h with queue := queue.map (Job.rename ρ) } := { e with queue := rfl }
    cases job with
    | resume n answer => exact hrest.resume n answer
    | posted n failure => exact hrest.posted n failure
    | wake token => exact ⟨hrest.push .woken, rfl⟩

/-- What is part of a host does what the host does. -/
theorem step (e : Embeds ρ b p h) {i : Input} (hi : i.registers = false) :
    Mirrors ρ b (p.step i) (h.step (i.rename ρ)) := by
  cases i with
  | operate op => exact e.operate hi
  | reply r =>
    simp only [Input.rename, Host.step, e.stack]
    cases hs : p.stack with
    | nil => exact ⟨e, rfl⟩
    | cons f stack =>
      have hrest : Embeds ρ b { p with stack } { h with stack := stack.map (Frame.rename ρ) } := { e with stack := rfl }
      exact hrest.replied r f
  | answer n outcome =>
    simp only [Input.rename, Host.step, e.call]
    cases p.calls[n]? with
    | none => exact ⟨e, rfl⟩
    | some c =>
      obtain ⟨t, ask, accepted, progress⟩ := c
      cases progress with
      | waiting => exact ⟨e.answered n outcome, rfl⟩
      | _ => exact ⟨e, rfl⟩
  | acknowledge n failure =>
    simp only [Input.rename, Host.step, e.posting]
    cases p.postings[n]? with
    | none => exact ⟨e, rfl⟩
    | some posting =>
      obtain ⟨thing, event, stage⟩ := posting
      cases stage with
      | waiting => exact ⟨(e.setStage n .answered).enqueue (.posted n failure), rfl⟩
      | _ => exact ⟨e, rfl⟩
  | defer token => exact ⟨e.enqueue (.wake token), rfl⟩
  | tick =>
    simp only [Input.rename, Host.step, e.stack, List.isEmpty_map]
    cases p.stack.isEmpty with
    | true => exact e.work
    | false => exact ⟨e, rfl⟩
  | setClock ms => exact ⟨{ e with clock := rfl }, rfl⟩

/-! ### Moves -/

theorem bindThing (e : Embeds ρ b p h) (t : Nat) {f g : ExposedThing → Option (BusRef × Bus.Move Listener)}
    (hf : ∀ x, g x = (f x).map (Prod.map (BusRef.rename ρ) id)) :
    h.things[ρ.thing t]?.bind g = (p.things[t]?.bind f).map (Prod.map (BusRef.rename ρ) id) := by
  rw [e.thing]
  cases p.things[t]? with
  | none => rfl
  | some x => exact hf x

theorem bindBus (e : Embeds ρ b p h) (ref : BusRef) (m : Bus.Move Listener) :
    ((h.bus? (ref.rename ρ)).bind fun _ => some (ref.rename ρ, m)) =
      ((p.bus? ref).bind fun _ => some (ref, m)).map (Prod.map (BusRef.rename ρ) id) := by
  rw [e.bus?]
  cases p.bus? ref <;> rfl

theorem asks? (e : Embeds ρ b p h) {op : Operation} (hop : op.registers = false) :
    h.asks? (op.rename ρ) = (p.asks? op).map (Prod.map (BusRef.rename ρ) id) := by
  cases op with
  | add t kind name definition handler =>
    refine e.bindThing t fun x => ?_
    cases x.add kind name definition (handler.map .client) <;> rfl
  | remove t kind name =>
    refine e.bindThing t fun x => ?_
    cases x.remove kind name <;> rfl
  | emit t name payload =>
    refine e.bindThing t fun x => ?_
    cases x.emitted name payload <;> rfl
  | subscribe source client completes =>
    cases source with
    | topic t topic =>
      refine e.bindThing t fun x => ?_
      cases x.screen topic <;> rfl
    | bus n guard => exact e.bindBus (.alone n) _
  | unsubscribe s => exact e.bindBus s.bus _
  | publish n event => exact e.bindBus (.alone n) _
  | complete n => exact e.bindBus (.alone n) _
  | relay t broker => exact e.bindThing t fun x => rfl
  | newThing servient id name description => rfl
  | setHandler t kind handler name => rfl
  | call t ask => rfl
  | newBus => rfl
  | post broker thing event => rfl
  | _ => cases hop

theorem announced? (e : Embeds ρ b p h) (n : Nat) (o : Outcome) :
    h.announced? (ρ.call n) o = (p.announced? n o).map (Prod.map (BusRef.rename ρ) id) := by
  cases o with
  | error thrown => rfl
  | ok v =>
    simp only [Host.announced?, e.call]
    cases p.calls[n]? with
    | none => rfl
    | some c =>
      have hbus := e.bus? (.own c.thing)
      simp only [Option.map_some, Option.bind_some]
      show (announcement? c.ask v).bind _ = _
      cases announcement? c.ask v with
      | none => rfl
      | some event =>
        show (h.bus? _).map _ = ((p.bus? _).map _).map _
        rw [Option.map_map, ← hbus]
        rfl

theorem resumed? (e : Embeds ρ b p h) : h.resumed? = p.resumed?.map (Prod.map (BusRef.rename ρ) id) := by
  rw [Host.resumed?, Host.resumed?, e.queue]
  cases p.queue with
  | nil => rfl
  | cons job queue =>
    cases job with
    | resume n answer => exact e.announced? n answer
    | _ => rfl

theorem move? (e : Embeds ρ b p h) {i : Input} (hi : i.registers = false) :
    h.move? (i.rename ρ) = (p.move? i).map (Prod.map (BusRef.rename ρ) id) := by
  cases i with
  | operate op => exact e.asks? hi
  | reply r =>
    simp only [Input.rename, Host.move?, e.stack]
    cases p.stack with
    | nil => rfl
    | cons f stack => cases f <;> rfl
  | tick =>
    simp only [Input.rename, Host.move?, e.stack, e.resumed?, List.isEmpty_map]
    cases p.stack.isEmpty with
    | false => rfl
    | true => cases p.resumed? <;> rfl
  | _ => rfl

/-- No bus that bears none of the numbers is moved. -/
theorem moveOn_eq_none (e : Embeds ρ b p h) {i : Input} (hi : i.registers = false) {t : Nat} (ht : ∀ k, ρ.thing k ≠ t) :
    moveOn (.own t) h (i.rename ρ) = none := by
  rw [moveOn, e.move? hi]
  cases p.move? i with
  | none => rfl
  | some m =>
    obtain ⟨ref, m⟩ := m
    refine if_neg fun heq => ?_
    cases ref with
    | own k => exact ht k (BusRef.own.inj heq)
    | alone n => cases heq

/-- The same inputs lead to the same again, as often as they are taken. -/
theorem run (e : Embeds ρ b p h) {inputs : List Input} (hi : ∀ i ∈ inputs, i.registers = false) :
    Mirrors ρ b (p.run inputs) (h.run (inputs.map (Input.rename ρ))) := by
  induction inputs generalizing p h with
  | nil => exact ⟨e, rfl⟩
  | cons i inputs ih =>
    have hstep := e.step (hi i List.mem_cons_self)
    exact (ih hstep.embeds fun j hj => hi j (List.mem_cons_of_mem _ hj)).prepend hstep.outputs

end Embeds

end Host
end ThingHost
