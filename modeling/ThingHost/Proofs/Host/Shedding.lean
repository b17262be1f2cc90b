import ThingHost.Proofs.Host.Without

/-! What a host does without relays is what it does with them. Whatever is asked of both, other than what concerns the
    relays alone, both do in step, but for the turns of the relays; and what concerns the relays alone changes nothing
    that is left when they are taken away. -/

namespace ThingHost

namespace ExposedThing

theorem declare_without (gone : List Nat) (x : ExposedThing) (kind : InteractionKind) (name : String) (definition : Value)
    (handler : Option Handler) : (x.without gone).declare kind name definition handler =
      (x.declare kind name definition handler).map fun r => (r.1.without gone, r.2) := by
  simp only [declare]
  show x.thing.add (interactionOf x.nextSerial kind name definition) >>= _ = _
  cases x.thing.add (interactionOf x.nextSerial kind name definition) <;> rfl

theorem add_without (gone : List Nat) (x : ExposedThing) (kind : InteractionKind) (name definition : Value)
    (handler : Option Handler) : (x.without gone).add kind name definition handler =
      (x.add kind name definition handler).map fun r => (r.1.without gone, r.2) := by
  simp only [add, declare_without]
  rcases givenDefinition kind definition with t | given
  · rfl
  simp only [bind, Except.bind]
  rcases (parseDefinition (interactionSchema kind) name given).mapError Thrown.ofRefusal with t | parsed
  · rfl
  rcases (checkReserved kind name).mapError Thrown.ofRefusal with t | free
  · rfl
  cases name with
  | string s =>
    dsimp only
    cases x.declare kind s parsed (givenHandler kind definition handler) <;> rfl
  | _ => rfl

theorem remove_without (gone : List Nat) (x : ExposedThing) (kind : InteractionKind) (name : Value) :
    (x.without gone).remove kind name = (x.remove kind name).map fun r => (r.1.without gone, r.2) := by
  simp only [remove]
  show x.thing.require kind name >>= _ = _
  cases x.thing.require kind name <;> rfl

theorem setHandler_without (gone : List Nat) (x : ExposedThing) (kind : CallKind) (handler : Handler) (name : Option Value) :
    (x.without gone).setHandler kind handler name = (x.setHandler kind handler name).map (ExposedThing.without gone) := by
  cases name with
  | none => rfl
  | some n =>
    simp only [setHandler]
    show x.thing.require (target kind) n >>= _ = _
    cases x.thing.require (target kind) n <;> rfl

theorem answer_without (gone : List Nat) (x : ExposedThing) (ask : Ask) :
    (x.without gone).answer ask = ((x.answer ask).1.without gone, (x.answer ask).2) := by
  have hthing : (x.without gone).thing = x.thing := rfl
  cases ask with
  | read property =>
    simp only [answer, hthing]
    cases x.thing.require .property property <;> rfl
  | write property value =>
    simp only [answer, hthing]
    cases x.thing.require .property property <;> rfl
  | invoke action arguments => rfl

end ExposedThing

/-- The operation concerns relays alone, or the broker. -/
def Operation.errand (gone : BusRef → List Nat) : Operation → Bool
  | .relay .. => true
  | .post .. => true
  | .unsubscribe s => s.id ∈ gone s.bus
  | _ => false

def Operation.renumber (gone : BusRef → List Nat) : Operation → Operation
  | .unsubscribe s => .unsubscribe (s.renumber gone)
  | op => op

namespace Host

/-- Relays, and nobody else, are left out. -/
structure Fits (gone : BusRef → List Nat) (h : Host) : Prop where
  /-- Numbers count from one. -/
  new : ∀ ref, 0 ∉ gone ref
  sinks : ∀ ref b, h.bus? ref = some b → ∀ s ∈ b.sinks, Staff (gone ref) s
  rest : ∀ ref, ∀ f ∈ h.stack, ∀ d, f.on? ref = some (.next d) → ∀ s ∈ d.rest, Staff (gone ref) s
  remaining : ∀ ref, ∀ f ∈ h.stack, ∀ c, f.on? ref = some (.complete c) → ∀ s ∈ c.rest, Staff (gone ref) s

namespace Sheds
variable {gone : BusRef → List Nat} {h p : Host} {ref : BusRef}

/-! ### Going on -/

theorem returns (e : Sheds gone h p) (r : Except Thrown Result) :
    Tracks gone (h.returns r) (p.returns (r.map (Result.renumber gone))) := .of_sheds e rfl

theorem settle (e : Sheds gone h p) (n : Nat) (o : Outcome) : Tracks gone (h.settle n o) (p.settle n o) :=
  .of_sheds (e.setProgress n (.settled o)) rfl

theorem finish (e : Sheds gone h p) (after : After) : Tracks gone (h.finish after) (p.finish (after.renumber gone)) := by
  cases after with
  | returned r => exact e.returns r
  | settled n o => exact e.settle n o

theorem followNext (e : Sheds gone h p) {d d' : Delivery Listener} (after : After)
    (hd : d'.uncounted = d.without (gone ref)) {n : Nat} (ho : d.current.owner = .client n) (hid : d.current.id ∉ gone ref) :
    Tracks gone (h.follow ref after (.next d)) (p.follow ref (after.renumber gone) (.next d')) := by
  have hcurrent : d'.current = d.current.renumber (gone ref) := congrArg Delivery.current hd
  have hevent : d'.event = d.event := (congrArg Delivery.event hd :)
  have ho' : d'.current.owner = .client n := by rw [hcurrent, ← ho]; rfl
  simp only [follow, ho, ho', hevent]
  refine .of_sheds (e.push ?_ ⟨rfl, ?_⟩) ?_
  · simp only [Frame.countless, Frame.without, hd]
  · rintro s ⟨⟩
    exact hid
  · simp [Step.signs, Output.open, Output.calls, Sign.renumber, Output.renumber, Host.push, Frame.whose?, hcurrent,
      SubscriptionRef.renumber, Sink.renumber]

theorem followComplete (e : Sheds gone h p) {c c' : Completion Listener} (after : After)
    (hc : c'.uncounted = c.without (gone ref)) {n : Nat} (ho : c.current.owner = .client n) (hid : c.current.id ∉ gone ref) :
    Tracks gone (h.follow ref after (.complete c)) (p.follow ref (after.renumber gone) (.complete c')) := by
  have hcurrent : c'.current = c.current.renumber (gone ref) := congrArg Completion.current hc
  have ho' : c'.current.owner = .client n := by rw [hcurrent, ← ho]; rfl
  simp only [follow, ho, ho']
  refine .of_sheds (e.push ?_ ⟨rfl, ?_⟩) ?_
  · simp only [Frame.countless, Frame.without, hc]
  · rintro s ⟨⟩
    exact hid
  · simp [Step.signs, Output.open, Output.calls, Sign.renumber, Output.renumber, Host.push, Frame.whose?, hcurrent,
      SubscriptionRef.renumber, Sink.renumber]

/-- Where a relay's turn comes, the host without it is past that turn. -/
theorem followRelay (e : Sheds gone h p) {d : Delivery Listener} (after : After) {broker : Nat} {thing : String}
    (ho : d.current.owner = .relay broker thing) (hid : d.current.id ∈ gone ref) {b : Bus Listener} (hb : h.bus? ref = some b)
    {x : Bus Listener × List Note × Turn Listener}
    (hx : Bus.outcome x = (b.without (gone ref)).onward d.event (kept (gone ref) d.rest)) :
    Tracks gone (h.follow ref after (.next d)) (p.onBus ref (after.renumber gone) x) := by
  simp only [follow, ho]
  refine ⟨_, .behind rfl hid ?_ (e.startPosting (.string thing) d.event) hx, rfl⟩
  rw [(startPosting_aside h (.string thing) d.event).bus?]
  exact hb

theorem onBus (e : Sheds gone h p) (hthere : (h.bus? ref).isSome) (after : After)
    {r x : Bus Listener × List Note × Turn Listener} (hmeets : Bus.Meets (Staff (gone ref)) r.2.2)
    (hx : Bus.outcome x = Bus.catchUp (gone ref) (Bus.outcome r)) :
    Tracks gone (h.onBus ref after r) (p.onBus ref (after.renumber gone) x) := by
  obtain ⟨b, notes, turn⟩ := r
  obtain ⟨b', notes', turn'⟩ := x
  have hset := e.setBus ref b
  rcases turn with _ | d | c
  · simp only [Bus.outcome, Bus.catchUp, Turn.countless, Prod.mk.injEq] at hx
    obtain ⟨rfl, hturn⟩ := hx
    obtain rfl : turn' = .over := by cases turn' <;> first | rfl | cases hturn
    exact (hset.finish after).noted _ _ _ _
  · -- The turn of a relay is none of the other bus, which is at a later one already. The turn of a client is.
    by_cases hout : d.current.id ∈ gone ref
    · obtain ⟨broker, thing, ho⟩ := hmeets.relay hout
      have hb : (h.setBus ref b).bus? ref = some b := by rw [setBus_bus? hthere, if_pos rfl]
      rw [← onBus_setBus p ref (b.without (gone ref))]
      have hgoes : Bus.outcome (b', notes', turn') = (b.without (gone ref)).onward d.event (kept (gone ref) d.rest) := by
        rw [hx]
        simp only [Bus.outcome, Bus.catchUp, Turn.countless, Delivery.uncounted, hout, ↓reduceIte]
      have hquiet : ∀ o ∈ ([] : List Output), o.open = false := by simp
      exact (hset.followRelay after ho hout hb hgoes).prepend (noted_hidden _ _) hquiet
    · obtain ⟨n, ho⟩ := hmeets.client hout
      simp only [Bus.outcome, Bus.catchUp, Turn.countless, Delivery.uncounted, hout, ↓reduceIte, Prod.mk.injEq] at hx
      obtain ⟨rfl, hturn⟩ := hx
      obtain ⟨d', rfl, hd⟩ : ∃ d', turn' = .next d' ∧ d'.uncounted = d.without (gone ref) := by
        cases turn' with
        | next d' => exact ⟨d', rfl, Turn.next.inj hturn⟩
        | _ => cases hturn
      exact (hset.followNext after hd ho hout).noted _ _ _ _
  · obtain ⟨hstaff, hwants⟩ := hmeets
    -- Relays do not ask to be told of a completion, so it is a client.
    have hid : c.current.id ∉ gone ref := fun hout => Bool.false_ne_true ((hstaff.quiet hout).symm.trans hwants)
    obtain ⟨n, ho⟩ := hstaff.client hid
    simp only [Bus.outcome, Bus.catchUp, Turn.countless, Completion.uncounted, Prod.mk.injEq] at hx
    obtain ⟨rfl, hturn⟩ := hx
    obtain ⟨c', rfl, hc⟩ : ∃ c', turn' = .complete c' ∧ c'.uncounted = c.without (gone ref) := by
      cases turn' with
      | complete c' => exact ⟨c', rfl, Turn.complete.inj hturn⟩
      | _ => cases hturn
    exact (hset.followComplete after hc ho hid).noted _ _ _ _

section OnBus
variable (e : Sheds gone h p) (after : After) (hs : ∀ b, h.bus? ref = some b → ∀ s ∈ b.sinks, Staff (gone ref) s)
include e hs

theorem publish (event : Event) : Tracks gone (h.publish ref event after) (p.publish ref event (after.renumber gone)) := by
  rw [Host.publish, Host.publish, e.bus?]
  cases hb : h.bus? ref with
  | none => exact e.finish after
  | some b => exact e.onBus (by simp [hb]) after (Bus.publish_meets (hs b hb) event) (Bus.publish_without b event)

theorem complete : Tracks gone (h.complete ref after) (p.complete ref (after.renumber gone)) := by
  rw [Host.complete, Host.complete, e.bus?]
  cases hb : h.bus? ref with
  | none => exact e.finish after
  | some b =>
    refine e.onBus (by simp [hb]) after (Bus.complete_meets (hs b hb)) (Bus.complete_without fun s hmem hout => ?_)
    exact (hs b hb s hmem).quiet hout

end OnBus

/-! ### Servients and Things -/

theorem onServient (e : Sheds gone h p) (servient : Nat) (f : Servient → Except ThingError Servient) (note : Note) :
    Tracks gone (h.onServient servient f note) (p.onServient servient f note) := by
  rw [Host.onServient, Host.onServient, e.servients]
  cases h.servients[servient]? with
  | none => exact .of_sheds e rfl
  | some s =>
    dsimp only
    cases f s with
    | error refused => exact e.returns (refuse refused)
    | ok s' => exact ((e.setServient servient s').returns (.ok .none)).noted _ _ _ _

theorem produce (e : Sheds gone h p) (hnew : ∀ ref, 0 ∉ gone ref) (servient : Nat) (definition : Value) (freshId : String) :
    Tracks gone (h.produce servient definition freshId) (p.produce servient definition freshId) := by
  have hservient : p.servients[servient]? = h.servients[servient]? := by rw [e.servients]
  rw [Host.produce, Host.produce, hservient]
  rcases h.servients[servient]? with _ | s
  · exact .of_sheds e rfl
  dsimp only
  cases thingSchema.parse definition with
  | error issues => exact e.returns (refuse (.invalidThing issues))
  | ok parsed =>
    dsimp only
    split
    · exact e.returns (refuse (.duplicateThing _))
    refine Tracks.noted ?_ _ _ _ _
    generalize hx : ExposedThing.new servient _ = x
    rcases hdeclare : (declareAll x (declarations parsed)).1 with t | y
    · exact e.returns (.error t)
    · have hy := declareAll_bus (by rw [← hx]; rfl) hdeclare
      dsimp only
      rw [e.things_length]
      cases s.register ((parsed.text? "id").getD freshId) h.things.length with
      | error refused => exact e.returns (refuse refused)
      | ok s' =>
        dsimp only
        exact (((e.addThing hy hnew).setServient servient s').returns (.ok (.thing h.things.length))).noted _ _ _ _

theorem withThing (e : Sheds gone h p) (t : Nat) {f g : ExposedThing → Step}
    (hf : ∀ x, h.things[t]? = some x → Tracks gone (f x) (g (x.without (gone (.own t))))) :
    Tracks gone (h.withThing t f) (p.withThing t g) := by
  rw [Host.withThing, Host.withThing, e.thing]
  cases hx : h.things[t]? with
  | none => exact .of_sheds e rfl
  | some x => exact hf x hx

theorem announce (e : Sheds gone h p) {t : Nat} {x : ExposedThing} (note : Note) {r : Except Thrown (ExposedThing × Event)}
    (hx : h.things[t]? = some x) (hr : ∀ y event, r = .ok (y, event) → y.bus = x.bus)
    (hs : ∀ s ∈ x.bus.sinks, Staff (gone (.own t)) s) :
    Tracks gone (h.announce t note r) (p.announce t note (r.map fun r => (r.1.without (gone (.own t)), r.2))) := by
  cases r with
  | error thrown => exact e.returns (.error thrown)
  | ok r =>
    have hbus := hr r.1 r.2 rfl
    refine ((e.setThing t r.1).publish (.returned (.ok .none)) (fun b hb => ?_) r.2).noted _ _ _ _
    rw [(setThing_aside hx hbus).bus?] at hb
    simp only [Host.bus?, hx, Option.map_some, Option.some.injEq] at hb
    exact hb ▸ hs

theorem destroy (e : Sheds gone h p) (t : Nat) (hs : ∀ b, h.bus? (.own t) = some b → ∀ s ∈ b.sinks, Staff (gone (.own t)) s) :
    Tracks gone (h.destroy t) (p.destroy t) := by
  refine e.withThing t fun x hx => ?_
  have hservient : (x.without (gone (.own t))).servient = x.servient := rfl
  have hid : (x.without (gone (.own t))).id = x.id := rfl
  rw [e.servients, hservient, hid]
  cases h.servients[x.servient]? with
  | none => exact .of_sheds e rfl
  | some s =>
    dsimp only
    cases s.remove (.string x.id) with
    | error refused => exact e.complete (.returned (refuse refused)) hs
    | ok s' =>
      refine ((e.setServient x.servient s').complete (.returned (.ok .none)) fun b hb => hs b ?_).noted _ _ _ _
      rwa [(setServient_aside h x.servient s').bus?] at hb

/-! ### Calls -/

theorem makeCall (e : Sheds gone h p) (t : Nat) (ask : Ask) : Tracks gone (h.call t ask) (p.call t ask) := by
  refine e.withThing t fun x _ => ?_
  have haccept : (x.without (gone (.own t))).accept ask = x.accept ask := rfl
  dsimp only
  rw [haccept, e.calls]
  cases x.accept ask with
  | error refused => exact .of_sheds (e.startCall ⟨t, ask, none, .settled (refuse refused)⟩) rfl
  | ok r =>
    obtain ⟨i, handler⟩ := r
    have hstart := e.startCall ⟨t, ask, some (i.serial, handler), .running⟩
    dsimp only
    refine Tracks.noted ?_ _ _ _ _
    cases handler with
    | client c => exact .of_sheds (hstart.push rfl ⟨rfl, by rintro s ⟨⟩⟩) rfl
    | broken => exact (hstart.answered _ _).returns (.ok (.call _))
    | standard =>
      rw [ExposedThing.answer_without]
      exact ((hstart.setThing t _).answered _ _).returns (.ok (.call _))

theorem resume (e : Sheds gone h p) (hs : ∀ ref b, h.bus? ref = some b → ∀ s ∈ b.sinks, Staff (gone ref) s) (n : Nat)
    (answer : Outcome) : Tracks gone (h.resume n answer) (p.resume n answer) := by
  rw [Host.resume, Host.resume, e.calls]
  cases h.calls[n]? with
  | none => exact .of_sheds e rfl
  | some c =>
    obtain ⟨t, ask, accepted, progress⟩ := c
    cases answer with
    | error thrown => exact e.settle n (.error thrown)
    | ok v =>
      cases ask with
      | read property => exact e.settle n (.ok v)
      | write property value => exact e.publish (.settled n (.ok .undefined)) (hs (.own t)) _
      | invoke action arguments => exact e.publish (.settled n (.ok v)) (hs (.own t)) _

/-! ### Subscriptions -/

theorem attach (e : Sheds gone h p) (screen : Event → Screening) (completes : Bool) (n : Nat)
    (hid : ∀ b, h.bus? ref = some b → b.nextId ∉ gone ref) :
    Tracks gone (h.attach ref screen completes (.client n)) (p.attach ref screen completes (.client n)) := by
  rw [Host.attach, Host.attach, e.bus?]
  cases hb : h.bus? ref with
  | none => exact .of_sheds e rfl
  | some b =>
    have hset := e.setBus ref (b.attach screen completes (.client n)).1
    have hcompleted : (b.without (gone ref)).completed = b.completed := rfl
    simp only [Option.map_some, Bus.attach_without (hid b hb), hcompleted]
    cases b.completed && completes with
    | false => exact hset.returns (.ok (.subscription ⟨ref, _⟩))
    | true =>
      refine .of_sheds (hset.push rfl ⟨rfl, ?_⟩) rfl
      rintro s ⟨⟩
      rw [Bus.attach_id]
      exact hid b hb

/-- What happens to those that are left out is not seen on a bus. -/
theorem setBusAside (e : Sheds gone h p) {b b' : Bus Listener} (hb : h.bus? ref = some b)
    (hsame : b'.without (gone ref) = b.without (gone ref)) : Sheds gone (h.setBus ref b') p := by
  have hset := e.setBus ref b'
  rwa [hsame, setBus_self (h := p) (by rw [e.bus?, hb]; rfl)] at hset

theorem attachRelay (e : Sheds gone h p) (screen : Event → Screening) (broker : Nat) (thing : String)
    (hid : ∀ b, h.bus? ref = some b → b.nextId ∈ gone ref) :
    Sheds gone (h.attach ref screen false (.relay broker thing)).1 p := by
  rw [Host.attach]
  cases hb : h.bus? ref with
  | none => exact e
  | some b =>
    have hset := e.setBusAside hb (Bus.attach_of_gone (hid b hb) screen false (.relay broker thing))
    dsimp only
    cases b.completed <;> exact hset

theorem subscribe (e : Sheds gone h p) (source : Source) (client : Nat) (completes : Bool)
    (hid : ∀ ref screen, h.asks? (.subscribe source client completes) = some (ref, .attach screen completes (.client client)) →
      ∀ b, h.bus? ref = some b → b.nextId ∉ gone ref) :
    Tracks gone (h.subscribe source client completes) (p.subscribe source client completes) := by
  cases source with
  | topic t topic =>
    refine e.withThing t fun x hx => ?_
    have hscreen : (x.without (gone (.own t))).screen topic = x.screen topic := rfl
    rw [hscreen]
    cases hs : x.screen topic with
    | error refused => exact e.returns (refuse refused)
    | ok screen => exact e.attach screen completes client (hid (.own t) screen (by simp [asks?, hx, hs]))
  | bus n guard =>
    refine e.attach _ completes client fun b hb => hid (.alone n) (ExposedThing.screenBy guard) ?_ b hb
    simp only [asks?, hb]
    rfl

theorem unsubscribe (e : Sheds gone h p) {s : SubscriptionRef} (hs : s.id ∉ gone s.bus) :
    Tracks gone (h.unsubscribe s) (p.unsubscribe (s.renumber gone)) := by
  rw [Host.unsubscribe, Host.unsubscribe, SubscriptionRef.renumber, e.bus?]
  cases h.bus? s.bus with
  | none => exact .of_sheds e rfl
  | some b =>
    simp only [Option.map_some, Bus.unsubscribe_without hs]
    exact (e.setBus s.bus _).returns (.ok .none)

theorem unsubscribeRelay (e : Sheds gone h p) {s : SubscriptionRef} (hs : s.id ∈ gone s.bus) :
    Sheds gone (h.unsubscribe s).1 p := by
  rw [Host.unsubscribe]
  cases hb : h.bus? s.bus with
  | none => exact e
  | some b =>
    exact e.setBusAside hb (Bus.unsubscribe_of_gone hs)

/-! ### Inputs -/

theorem operate (e : Sheds gone h p) (fits : Fits gone h) {op : Operation} (hop : op.errand gone = false)
    (hid : ∀ ref screen completes client b, h.asks? op = some (ref, .attach screen completes (.client client)) →
      h.bus? ref = some b → b.nextId ∉ gone ref) :
    Tracks gone (h.operate op) (p.operate (op.renumber gone)) := by
  have hown : ∀ {t x}, h.things[t]? = some x → ∀ s ∈ x.bus.sinks, Staff (gone (.own t)) s :=
    fun {t x} hx => fits.sinks (.own t) x.bus (by simp [Host.bus?, hx])
  cases op with
  | newServient =>
    have hnew : Sheds gone { h with servients := h.servients ++ [.empty] } { p with servients := p.servients ++ [.empty] } :=
      { e with servients := congrArg (· ++ [Servient.empty]) e.servients }
    show Tracks gone _ (Host.returns _ (.ok (.servient p.servients.length)))
    rw [e.servients] at hnew ⊢
    exact hnew.returns (.ok (.servient _))
  | produce servient definition freshId => exact e.produce fits.new servient definition freshId
  | newThing servient id name description =>
    show Tracks gone _ (Host.returns _ (.ok (.thing p.things.length)))
    rw [e.things_length]
    exact (e.addThing rfl fits.new).returns (.ok (.thing _))
  | register servient t => exact e.withThing t fun x _ => e.onServient _ _ _
  | enable servient id => exact e.onServient _ _ _
  | disable servient id => exact e.onServient _ _ _
  | removeThing servient id => exact e.onServient _ _ _
  | expose t => exact e.withThing t fun x _ => e.onServient _ _ _
  | destroy t => exact e.destroy t (fits.sinks (.own t))
  | add t kind name definition handler =>
    refine e.withThing t fun x hx => ?_
    rw [ExposedThing.add_without]
    exact e.announce _ hx (fun y event hy => ExposedThing.add_bus hy) (hown hx)
  | remove t kind name =>
    refine e.withThing t fun x hx => ?_
    have hr : ((x.without (gone (.own t))).remove kind name).mapError Thrown.ofRefusal =
        ((x.remove kind name).mapError Thrown.ofRefusal).map fun r => (r.1.without (gone (.own t)), r.2) := by
      rw [ExposedThing.remove_without]
      cases x.remove kind name <;> rfl
    rw [hr]
    refine e.announce _ hx (fun y event hy => ?_) (hown hx)
    exact ExposedThing.remove_bus (ExposedThing.mapError_eq_ok.mp hy)
  | setHandler t kind handler name =>
    refine e.withThing t fun x hx => ?_
    rw [ExposedThing.setHandler_without]
    cases x.setHandler kind (.client handler) name with
    | error refused => exact e.returns (refuse refused)
    | ok y => exact (e.setThing t y).returns (.ok .none)
  | emit t name payload =>
    refine e.withThing t fun x hx => ?_
    have hemitted : (x.without (gone (.own t))).emitted name payload = x.emitted name payload := rfl
    rw [hemitted]
    cases x.emitted name payload with
    | error refused => exact e.returns (refuse refused)
    | ok event => exact e.publish (.returned (.ok .none)) (fits.sinks (.own t)) event
  | call t ask => exact e.makeCall t ask
  | subscribe source client completes =>
    exact e.subscribe source client completes fun ref screen ha b hb => hid ref screen completes client b ha hb
  | unsubscribe s => exact e.unsubscribe (by simpa [Operation.errand] using hop)
  | newBus =>
    show Tracks gone _ (Host.returns _ (.ok (.bus p.buses.length)))
    rw [e.buses_length]
    exact (e.addBus fits.new).returns (.ok (.bus _))
  | publish n event => exact e.publish (.returned (.ok .none)) (fits.sinks (.alone n)) event
  | complete n => exact e.complete (.returned (.ok .none)) (fits.sinks (.alone n))
  | _ => cases hop

/-- What concerns relays alone changes nothing without them. -/
theorem operateAside (e : Sheds gone h p) {op : Operation} (hop : op.errand gone = true)
    (hid : ∀ ref screen completes broker thing b, h.asks? op = some (ref, .attach screen completes (.relay broker thing)) →
      h.bus? ref = some b → b.nextId ∈ gone ref) : Stands gone (h.operate op).1 p [] := by
  cases op with
  | unsubscribe s => exact .level (e.unsubscribeRelay (by simpa [Operation.errand] using hop))
  | relay t broker =>
    refine .level ?_
    simp only [Host.operate, Host.withThing]
    cases hx : h.things[t]? with
    | none => exact e
    | some x =>
      refine e.attachRelay _ broker x.id fun b hb => hid (.own t) (Relay.screen (.string x.id)) false broker x.id b ?_ hb
      simp [asks?, hx]
  | post broker thing event =>
    simp only [Host.operate, Host.post]
    split
    · exact .level e
    · split
      · exact .posting rfl (e.startPosting thing event)
      · exact .level ((e.startPosting thing event).setStage _ .over)
  | _ => cases hop

/-- A client's code goes on in the same way. -/
theorem replied (e : Sheds gone h p) {f f' : Frame} (hf : f'.countless = f.without gone) (hcalm : f.brokers = false)
    (hthere : ∀ ref, f.on? ref ≠ none → (h.bus? ref).isSome)
    (hs : ∀ ref b, h.bus? ref = some b → ∀ s ∈ b.sinks, Staff (gone ref) s)
    (hrest : ∀ ref d, f.on? ref = some (.next d) → ∀ s ∈ d.rest, Staff (gone ref) s)
    (hremaining : ∀ ref c, f.on? ref = some (.complete c) → ∀ s ∈ c.rest, Staff (gone ref) s) (r : Reply) :
    Tracks gone (h.replied r f) (p.replied r f') := by
  cases f with
  | next ref d after =>
    obtain ⟨d', rfl, hd⟩ : ∃ d', f' = .next ref d' (after.renumber gone) ∧ d'.uncounted = d.without (gone ref) := by
      cases f' <;> simp only [Frame.countless, Frame.without, Frame.next.injEq, reduceCtorEq] at hf
      obtain ⟨rfl, hd, rfl⟩ := hf
      exact ⟨_, rfl, hd⟩
    have hon : (Frame.next ref d after).on? ref = some (.next d) := by simp [Frame.on?]
    obtain ⟨b, hb⟩ := Option.isSome_iff_exists.mp (hthere ref (by simp [hon]))
    simp only [Host.replied, e.bus?, hb, Option.map_some]
    refine e.onBus (by simp [hb]) after (Bus.afterNext_meets (hs ref b hb) (hrest ref d hon) r.thrown?) ?_
    have hevent : d'.event = d.event := (congrArg Delivery.event hd :)
    have hkept : d'.rest = kept (gone ref) d.rest := congrArg Delivery.rest hd
    rw [Bus.outcome_afterNext, hevent, hkept, Bus.afterNext_without]
  | complete ref c after =>
    obtain ⟨c', rfl, hc⟩ : ∃ c', f' = .complete ref c' (after.renumber gone) ∧ c'.uncounted = c.without (gone ref) := by
      cases f' <;> simp only [Frame.countless, Frame.without, Frame.complete.injEq, reduceCtorEq] at hf
      obtain ⟨rfl, hc, rfl⟩ := hf
      exact ⟨_, rfl, hc⟩
    have hon : (Frame.complete ref c after).on? ref = some (.complete c) := by simp [Frame.on?]
    obtain ⟨b, hb⟩ := Option.isSome_iff_exists.mp (hthere ref (by simp [hon]))
    have hstaff := hremaining ref c hon
    simp only [Host.replied, e.bus?, hb, Option.map_some]
    refine e.onBus (by simp [hb]) after (Bus.closeAll_meets b c.total hstaff) ?_
    have hkept : c'.rest = kept (gone ref) c.rest := congrArg Completion.rest hc
    rw [Bus.outcome_afterComplete, Bus.outcome_afterComplete, hkept]
    exact Bus.closeAll_without _ _ fun s hmem hout => (hstaff s hmem).quiet hout
  | late s =>
    obtain rfl : f' = .late (s.renumber gone) := by cases f' <;> first | exact hf | cases hf
    cases r with
    | threw thrown => exact e.returns (.error thrown)
    | _ => exact e.returns (.ok (.subscription s))
  | handler n =>
    obtain rfl : f' = .handler n := by cases f' <;> first | exact hf | cases hf
    cases r with
    | done v => exact (e.answered n (.ok v)).returns (.ok (.call n))
    | threw thrown => exact (e.answered n (.error thrown)).returns (.ok (.call n))
    | promised => exact (e.setProgress n .waiting).returns (.ok (.call n))
  | woken =>
    obtain rfl : f' = .woken := by cases f' <;> first | exact hf | cases hf
    exact .of_sheds e rfl
  | _ => cases hcalm

theorem work (e : Sheds gone h p) (hs : ∀ ref b, h.bus? ref = some b → ∀ s ∈ b.sinks, Staff (gone ref) s)
    (hqueue : ∀ j, h.queue.head? = some j → j.isPosted = false) : Tracks gone h.work p.work := by
  rw [Host.work, Host.work, e.queue]
  rcases hq : h.queue with _ | ⟨job, queue⟩
  · exact .of_sheds e rfl
  rw [List.filter_cons_of_pos (by simp [hqueue job (by rw [hq]; rfl)])]
  have hrest : Sheds gone { h with queue } { p with queue := queue.filter (!·.isPosted) } := { e with queue := rfl }
  cases job with
  | resume n answer => exact hrest.resume hs n answer
  | posted n failure => cases hqueue _ (by rw [hq]; rfl)
  | wake token => exact .of_sheds (hrest.push rfl ⟨rfl, by rintro s ⟨⟩⟩) rfl

end Sheds

end Host
end ThingHost
