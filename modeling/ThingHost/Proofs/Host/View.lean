import ThingHost.Host.Step
import ThingHost.Proofs.Bus.Owners

/-! A host seen from one of its buses. A step of a host makes at most one move on one bus, and leaves every
    other bus as it is; so whatever is done with a host, each of its buses only sees moves, and what holds
    of a bus whatever is done with it holds of every bus of a host. -/

namespace ThingHost

/-! ### Code that runs -/

/-- The code that a frame runs on a bus. -/
def Frame.on? (ref : BusRef) : Frame → Option (Bus.Running Listener)
  | .next r d _ => if r = ref then some (.next d) else none
  | .relaying _ r d _ => if r = ref then some (.next d) else none
  | .complete r c _ => if r = ref then some (.complete c) else none
  | .late s => if s.bus = ref then some (.late s.id) else none
  | _ => none

/-- Client code has to run. -/
def Output.calls : Output → Bool
  | .callNext .. => true
  | .callComplete _ => true
  | .callHandler .. => true
  | .callBroker .. => true
  | .wake _ => true
  | _ => false

/-- The output with which the code of a frame is called. -/
inductive Frame.Opens : Frame → Output → Prop where
  | next {ref : BusRef} {d : Delivery Listener} {after : After} {n : Nat} (owner : d.current.owner = .client n) :
      Opens (.next ref d after) (.callNext n d.event)
  | complete {ref : BusRef} {c : Completion Listener} {after : After} {n : Nat} (owner : c.current.owner = .client n) :
      Opens (.complete ref c after) (.callComplete n)
  | late {s : SubscriptionRef} {n : Nat} : Opens (.late s) (.callComplete n)
  | handler {client call : Nat} {arguments : List Value} : Opens (.handler call) (.callHandler client call arguments)
  | relaying {broker posting : Nat} {thing : String} {ref : BusRef} {d : Delivery Listener} {after : After}
      {channel text : String} (owner : d.current.owner = .relay broker thing) :
      Opens (.relaying posting ref d after) (.callBroker broker posting channel text)
  | posting {broker posting : Nat} {channel text : String} :
      Opens (.posting posting) (.callBroker broker posting channel text)
  | woken {token : Nat} : Opens .woken (.wake token)

/-- The last of the outputs calls the code of a frame, and no other calls any; or none does. -/
def Calls : Option Frame → List Output → Prop
  | none, out => ∀ o ∈ out, o.calls = false
  | some f, out => ∃ before o, out = before ++ [o] ∧ f.Opens o ∧ ∀ x ∈ before, x.calls = false

theorem Frame.Opens.calls {f : Frame} {o : Output} (h : f.Opens o) : Calls (some f) [o] :=
  ⟨[], o, rfl, h, by simp⟩

/-- The call that starts a frame is the only one. -/
theorem Frame.Opens.only {f : Frame} {o : Output} (h : f.Opens o) {before : List Output}
    (hquiet : ∀ x ∈ before, x.calls = false) : (before ++ [o]).filter (·.calls) = [o] := by
  have hcalls : o.calls = true := by cases h <;> rfl
  rw [List.filter_append, List.filter_eq_nil_iff.mpr fun x hx => by simp [hquiet x hx], List.nil_append,
    List.filter_singleton, hcalls, cond_true]

theorem Calls.prepend {f : Option Frame} {before out : List Output} (hb : ∀ o ∈ before, o.calls = false)
    (h : Calls f out) : Calls f (before ++ out) := by
  cases f with
  | none =>
    intro o ho
    rcases List.mem_append.mp ho with ho | ho
    · exact hb o ho
    · exact h o ho
  | some f =>
    obtain ⟨mid, o, rfl, hopen, hmid⟩ := h
    refine ⟨before ++ mid, o, by rw [List.append_assoc], hopen, fun x hx => ?_⟩
    rcases List.mem_append.mp hx with hx | hx
    · exact hb x hx
    · exact hmid x hx

namespace Host

theorem noted_calls (thing : Option String) (notes : List Note) : ∀ o ∈ noted thing notes, o.calls = false := by
  intro o ho
  obtain ⟨n, -, rfl⟩ := List.mem_map.mp ho
  rfl

/-! ### One bus -/

/-- A bus of a host; one that is not there yet is as good as new. -/
def bus (h : Host) (ref : BusRef) : Bus Listener := (h.bus? ref).getD .new

/-- A bus of a host, and the code that runs on it. -/
def view (h : Host) (ref : BusRef) : Bus.Live Listener := ⟨h.bus ref, h.stack.filterMap (Frame.on? ref)⟩

theorem isClosed_eq (h : Host) (s : SubscriptionRef) : h.isClosed s = (h.bus s.bus).isClosed s.id := by
  simp only [isClosed, bus]
  cases h.bus? s.bus <;> rfl

/-- The event that announces a call whose handler has a result. -/
def announcement? : Ask → Value → Option Event
  | .read _, _ => none
  | .write property value, _ => some (.notification .propertyChange [("name", property), ("value", value)])
  | .invoke action _, v => some (.notification .actionInvocation [("actionName", action), ("returnValue", v)])

/-- What the rest of a call announces, and where. -/
def announced? (h : Host) (n : Nat) : Outcome → Option (BusRef × Event)
  | .ok v => h.calls[n]?.bind fun c => (announcement? c.ask v).bind fun e =>
      (h.bus? (.own c.thing)).map fun _ => (.own c.thing, e)
  | .error _ => none

/-- What the first work in the queue announces, and where. -/
def resumed? (h : Host) : Option (BusRef × Event) :=
  match h.queue with
  | .resume n answer :: _ => h.announced? n answer
  | _ => none

/-- What announcing a change of a Thing asks of its bus. -/
def announcing (t : Nat) : Except Thrown (ExposedThing × Event) → Option (BusRef × Bus.Move Listener)
  | .ok (_, e) => some (.own t, .publish e)
  | .error _ => none

/-- What an operation asks of a bus. -/
def asks? (h : Host) : Operation → Option (BusRef × Bus.Move Listener)
  | .destroy t => h.things[t]?.bind fun x => h.servients[x.servient]?.bind fun _ => some (.own t, .complete)
  | .add t kind name definition handler => h.things[t]?.bind fun x =>
      announcing t (x.add kind name definition (handler.map .client))
  | .remove t kind name => h.things[t]?.bind fun x => announcing t ((x.remove kind name).mapError .ofRefusal)
  | .emit t name payload => h.things[t]?.bind fun x =>
      match x.emitted name payload with
      | .ok e => some (.own t, .publish e)
      | .error _ => none
  | .subscribe (.topic t topic) client completes => h.things[t]?.bind fun x =>
      match x.screen topic with
      | .ok screen => some (.own t, .attach screen completes (.client client))
      | .error _ => none
  | .subscribe (.bus n guard) client completes => (h.bus? (.alone n)).bind fun _ =>
      some (.alone n, .attach (ExposedThing.screenBy guard) completes (.client client))
  | .unsubscribe s => (h.bus? s.bus).bind fun _ => some (s.bus, .unsubscribe s.id)
  | .publish n e => (h.bus? (.alone n)).bind fun _ => some (.alone n, .publish e)
  | .complete n => (h.bus? (.alone n)).bind fun _ => some (.alone n, .complete)
  | .relay t broker => h.things[t]?.bind fun x =>
      some (.own t, .attach (Relay.screen (.string x.id)) false (.relay broker x.id))
  | _ => none

/-- What an input makes a bus do. -/
def move? (h : Host) : Input → Option (BusRef × Bus.Move Listener)
  | .operate op => h.asks? op
  | .reply r =>
    match h.stack with
    | .next ref _ _ :: _ => some (ref, .done r.thrown?)
    | .relaying _ ref _ _ :: _ => some (ref, .done none)
    | .complete ref _ _ :: _ => some (ref, .done r.thrown?)
    | .late s :: _ => some (s.bus, .done r.thrown?)
    | _ => none
  | .tick => if h.stack.isEmpty then h.resumed?.map fun a => (a.1, .publish a.2) else none
  | _ => none

/-- The code that waits below what an input starts. -/
def base (h : Host) : Input → List Frame
  | .reply _ => h.stack.tail
  | _ => h.stack

/-- A move, if it is one on this bus. -/
def on (ref : BusRef) (m : Option (BusRef × Bus.Move Listener)) : Option (Bus.Move Listener) :=
  m.bind fun a => if a.1 = ref then some a.2 else none

/-- What an input makes this bus do. -/
def moveOn (ref : BusRef) (h : Host) (i : Input) : Option (Bus.Move Listener) := on ref (h.move? i)

/-- A step that makes the move `m`, and nothing else on any bus. -/
structure Effect (h : Host) (base : List Frame) (m : Option (BusRef × Bus.Move Listener)) (s : Step) : Prop where
  code : ∃ f, s.1.stack = f.toList ++ base ∧ Calls f s.2 ∧
    ∀ ref, f.bind (Frame.on? ref) = (on ref m).bind ((h.view ref).started ·)
  bus : ∀ ref, s.1.bus ref = match on ref m with
    | some m => ((h.view ref).react m).1
    | none => h.bus ref
  /-- A bus that is there stays there. -/
  kept : ∀ ref, (h.bus? ref).isSome → (s.1.bus? ref).isSome

/-- Every bus that code runs on is there, and no relay is told of a completion. -/
structure Grounded (h : Host) : Prop where
  there : ∀ f ∈ h.stack, ∀ ref, f.on? ref ≠ none → (h.bus? ref).isSome
  owners : ∀ ref, (h.view ref).All fun s => s.completes = true → ∃ n, s.owner = .client n

/-! ### What is left alone -/

/-- The second host has the stack and the buses of the first. -/
structure Aside (h h' : Host) : Prop where
  stack : h'.stack = h.stack
  bus? : ∀ ref, h'.bus? ref = h.bus? ref

section Parts
variable {h h' h'' : Host}

theorem bus?_congr (ht : h'.things = h.things) (hb : h'.buses = h.buses) (ref : BusRef) :
    h'.bus? ref = h.bus? ref := by
  cases ref <;> simp only [bus?, ht, hb]

theorem Aside.refl (h : Host) : Aside h h := ⟨rfl, fun _ => rfl⟩

theorem Aside.trans (a : Aside h h') (b : Aside h' h'') : Aside h h'' :=
  ⟨b.stack.trans a.stack, fun ref => (b.bus? ref).trans (a.bus? ref)⟩

theorem setProgress_aside (h : Host) (call : Nat) (p : Progress) : Aside h (h.setProgress call p) := by
  unfold setProgress
  split
  · exact ⟨rfl, bus?_congr rfl rfl⟩
  · exact Aside.refl h

theorem setStage_aside (h : Host) (posting : Nat) (s : Stage) : Aside h (h.setStage posting s) := by
  unfold setStage
  split
  · exact ⟨rfl, bus?_congr rfl rfl⟩
  · exact Aside.refl h

theorem enqueue_aside (h : Host) (j : Job) : Aside h (h.enqueue j) := ⟨rfl, bus?_congr rfl rfl⟩

theorem startPosting_aside (h : Host) (thing : Value) (e : Event) : Aside h (h.startPosting thing e).1 :=
  ⟨rfl, bus?_congr rfl rfl⟩

theorem startCall_aside (h : Host) (c : Call) : Aside h (h.startCall c) := ⟨rfl, bus?_congr rfl rfl⟩

theorem setServient_aside (h : Host) (s : Nat) (x : Servient) : Aside h (h.setServient s x) :=
  ⟨rfl, bus?_congr rfl rfl⟩

theorem answered_aside (h : Host) (call : Nat) (answer : Outcome) : Aside h (h.answered call answer) :=
  (setProgress_aside h call .answered).trans (enqueue_aside _ _)

theorem settle_aside (h : Host) (call : Nat) (outcome : Outcome) : Aside h (h.settle call outcome).1 :=
  setProgress_aside h call (.settled outcome)

theorem finish_aside (h : Host) (after : After) : Aside h (h.finish after).1 := by
  cases after with
  | returned r => exact Aside.refl h
  | settled call outcome => exact settle_aside h call outcome

theorem brokerDone_aside (h : Host) (n : Nat) (r : Reply) : Aside h (h.brokerDone n r).1 := by
  cases r with
  | done v => exact (setStage_aside h n .answered).trans (enqueue_aside _ _)
  | threw t =>
    simp only [brokerDone, posted]
    split
    · exact Aside.refl h
    · exact setStage_aside h n .over
  | promised => exact setStage_aside h n .waiting

theorem setThing_aside {t : Nat} {x y : ExposedThing} (hx : h.things[t]? = some x) (hy : y.bus = x.bus) :
    Aside h (h.setThing t y) := by
  refine ⟨rfl, fun ref => ?_⟩
  cases ref with
  | alone n => rfl
  | own t' =>
    simp only [bus?, setThing, List.getElem?_set]
    split
    · subst t'
      obtain ⟨hlt, hxt⟩ := List.getElem?_eq_some_iff.mp hx
      simp [hlt, hxt, hy]
    · rfl

theorem setBus_bus? {ref : BusRef} (hb : (h.bus? ref).isSome) (b : Bus Listener) (r : BusRef) :
    (h.setBus ref b).bus? r = if r = ref then some b else h.bus? r := by
  cases ref with
  | own t =>
    obtain ⟨x, hx⟩ : ∃ x, h.things[t]? = some x := by
      simpa [bus?, Option.isSome_iff_exists] using hb
    obtain ⟨hlt, -⟩ := List.getElem?_eq_some_iff.mp hx
    simp only [setBus, hx]
    cases r with
    | own t' =>
      simp only [bus?, setThing, List.getElem?_set, BusRef.own.injEq, eq_comm (a := t'), hlt, ↓reduceIte]
      split <;> rfl
    | alone n => simp [bus?, setThing]
  | alone n =>
    obtain ⟨hlt, -⟩ : ∃ hlt, h.buses[n] = _ := List.getElem?_eq_some_iff.mp (Option.eq_some_of_isSome hb)
    cases r with
    | own t' => simp [bus?, setBus]
    | alone n' =>
      simp only [bus?, setBus, List.getElem?_set, BusRef.alone.injEq, eq_comm (a := n'), hlt, ↓reduceIte]

theorem setBus_stack (h : Host) (ref : BusRef) (b : Bus Listener) : (h.setBus ref b).stack = h.stack := by
  cases ref with
  | own t =>
    simp only [setBus]
    split <;> rfl
  | alone n => rfl

end Parts

/-! ### Steps on no bus -/

section Effects
variable {h h' : Host} {below : List Frame} {ref : BusRef} {m : Bus.Move Listener}

theorem bus_eq (hb : h'.bus? ref = h.bus? ref) : h'.bus ref = h.bus ref := by
  simp only [bus, hb]

theorem Effect.prepend {m : Option (BusRef × Bus.Move Listener)} {before : List Output} {s : Step}
    (hb : ∀ o ∈ before, o.calls = false) (e : Effect h below m s) : Effect h below m (prepend before s) := by
  obtain ⟨f, hs, hc, hf⟩ := e.code
  exact ⟨⟨f, hs, hc.prepend hb, hf⟩, e.bus, e.kept⟩

theorem Effect.still {out : List Output} (hb : ∀ ref, h'.bus? ref = h.bus? ref) (hs : h'.stack = below)
    (ho : ∀ o ∈ out, o.calls = false) : Effect h below none (h', out) :=
  ⟨⟨none, hs, ho, fun _ => rfl⟩, fun ref => bus_eq (hb ref), fun ref hr => (hb ref).symm ▸ hr⟩

/-- A step that makes a Thing or a bus on which nothing has happened. -/
theorem Effect.grown {out : List Output} (hs : h'.stack = below) (ho : ∀ o ∈ out, o.calls = false)
    {things : List ExposedThing} (ht : h'.things = h.things ++ things) (hx : ∀ x ∈ things, x.bus = .new)
    {buses : List (Bus Listener)} (hb : h'.buses = h.buses ++ buses) (hn : ∀ b ∈ buses, b = .new) :
    Effect h below none (h', out) := by
  refine ⟨⟨none, hs, ho, fun _ => rfl⟩, fun ref => ?_, fun ref hr => ?_⟩
  · show h'.bus ref = h.bus ref
    cases ref with
    | own t =>
      simp only [Host.bus, bus?, ht, List.getElem?_append]
      split
      · rfl
      · rename_i hlt
        rw [List.getElem?_eq_none (Nat.le_of_not_lt hlt)]
        cases hget : things[t - h.things.length]? with
        | none => rfl
        | some x => simp [hx x (List.mem_of_getElem? hget)]
    | alone n =>
      simp only [Host.bus, bus?, hb, List.getElem?_append]
      split
      · rfl
      · rename_i hlt
        rw [List.getElem?_eq_none (Nat.le_of_not_lt hlt)]
        cases hget : buses[n - h.buses.length]? with
        | none => rfl
        | some b => simp [hn b (List.mem_of_getElem? hget)]
  · cases ref with
    | own t =>
      have hlt : t < h.things.length := by simpa [bus?] using hr
      simp [bus?, ht, List.getElem?_append_left hlt, hlt]
    | alone n =>
      have hlt : n < h.buses.length := by simpa [bus?] using hr
      simp [bus?, hb, List.getElem?_append_left hlt, hlt]

/-- A step that calls code which runs on no bus. -/
theorem Effect.opened {out : List Output} {f : Frame} (hb : ∀ ref, h'.bus? ref = h.bus? ref)
    (hs : h'.stack = f :: below) (hf : ∀ ref, f.on? ref = none) (ho : Calls (some f) out) :
    Effect h below none (h', out) :=
  ⟨⟨some f, hs, ho, hf⟩, fun ref => bus_eq (hb ref), fun ref hr => (hb ref).symm ▸ hr⟩

theorem returns_calls (h : Host) (r : Except Thrown Result) : ∀ o ∈ (h.returns r).2, o.calls = false := by
  simp [returns, Output.calls]

theorem finish_calls (h : Host) (after : After) : ∀ o ∈ (h.finish after).2, o.calls = false := by
  cases after <;> simp [finish, returns, settle, Output.calls]

theorem Effect.returns (hb : ∀ ref, h'.bus? ref = h.bus? ref) (hs : h'.stack = below) (r : Except Thrown Result) :
    Effect h below none (h'.returns r) := Effect.still hb hs (returns_calls h' r)

theorem Effect.nothing (h : Host) : Effect h h.stack none (h, []) := Effect.still (fun _ => rfl) rfl (by simp)

/-! ### Steps on a bus -/

theorem follow_code (h : Host) (ref : BusRef) (after : After) {turn : Turn Listener}
    (hown : ∀ c, turn = .complete c → ∃ n, c.current.owner = .client n) :
    ∃ f, (h.follow ref after turn).1.stack = f.toList ++ h.stack ∧ Calls f (h.follow ref after turn).2 ∧
      ∀ r, f.bind (Frame.on? r) = if ref = r then Bus.code? turn else none := by
  rcases turn with _ | d | c
  · exact ⟨none, (finish_aside h after).stack, finish_calls h after, fun r => by simp [Bus.code?]⟩
  · cases ho : d.current.owner with
    | client n =>
      refine ⟨some (.next ref d after), ?_, ?_, fun r => by simp [Frame.on?, Bus.code?]⟩
      · simp [follow, ho, push]
      · simp only [follow, ho]
        exact (Frame.Opens.next ho).calls
    | relay broker thing =>
      refine ⟨some (.relaying h.postings.length ref d after), ?_, ?_, fun r => by simp [Frame.on?, Bus.code?]⟩
      · simp [follow, ho, push, startPosting]
      · simp only [follow, ho, startPosting]
        exact (Frame.Opens.relaying ho).calls
  · obtain ⟨n, ho⟩ := hown c rfl
    refine ⟨some (.complete ref c after), ?_, ?_, fun r => by simp [Frame.on?, Bus.code?]⟩
    · simp [follow, ho, push]
    · simp only [follow, ho]
      exact (Frame.Opens.complete ho).calls

theorem follow_bus? (h : Host) (ref : BusRef) (after : After) (turn : Turn Listener) (r : BusRef) :
    (h.follow ref after turn).1.bus? r = h.bus? r := by
  rcases turn with _ | d | c
  · exact (finish_aside h after).bus? r
  · cases ho : d.current.owner <;> simp only [follow, ho] <;> exact bus?_congr rfl rfl r
  · cases ho : c.current.owner <;> simp only [follow, ho]
    · exact bus?_congr rfl rfl r
    · exact (finish_aside h after).bus? r

/-- A step that leaves a bus as a move does, and calls the code that the move starts. -/
theorem Effect.moved {b : Bus Listener} {r : Option (Bus.Running Listener)} {f : Option Frame} {s : Step}
    (hreact : (h.view ref).react m = (b, r)) (hb : ∀ q, s.1.bus? q = if q = ref then some b else h.bus? q)
    (hs : s.1.stack = f.toList ++ below) (hc : Calls f s.2)
    (hf : ∀ q, f.bind (Frame.on? q) = if ref = q then r else none) : Effect h below (some (ref, m)) s := by
  refine ⟨⟨f, hs, hc, fun q => ?_⟩, fun q => ?_, fun q hq => ?_⟩
  · rw [hf q]
    by_cases hq : ref = q
    · subst hq
      simp [on, Bus.Live.started, hreact]
    · simp [on, hq]
  · by_cases hq : ref = q
    · subst hq
      simp [Host.bus, hb, on, hreact]
    · simp [Host.bus, hb, on, hq, Ne.symm hq]
  · rw [hb q]
    split
    · rfl
    · exact hq

/-- What an operation on a bus makes of it is the move that it stands for. -/
theorem Effect.onBus {after : After} {r : Bus Listener × List Note × Turn Listener}
    (hb : ∀ ref, h'.bus? ref = h.bus? ref) (hs : h'.stack = below) (hthere : (h.bus? ref).isSome)
    (hreact : (h.view ref).react m = (r.1, Bus.code? r.2.2)) (g : Grounded h) :
    Effect h below (some (ref, m)) (h'.onBus ref after r) := by
  refine Effect.prepend (noted_calls _ _) ?_
  have hown : ∀ c, r.2.2 = .complete c → ∃ n, c.current.owner = .client n := by
    intro c hc
    have hstart : (h.view ref).started m = some (.complete c) := by
      simp only [Bus.Live.started, hreact, hc, Bus.code?]
    obtain ⟨hclient, hcomp⟩ := (g.owners ref).told hstart
    exact hclient hcomp
  obtain ⟨f, hf, hc, hon⟩ := (h'.setBus ref r.1).follow_code ref after hown
  refine Effect.moved hreact (fun q => ?_) ?_ hc hon
  · rw [follow_bus?, setBus_bus? (hb ref ▸ hthere), hb q]
  · rw [hf, setBus_stack, hs]

theorem bus_of_bus? {b : Bus Listener} (hb : h.bus? ref = some b) : h.bus ref = b := by
  simp only [bus, hb, Option.getD_some]

theorem Effect.publish (g : Grounded h) (hb : ∀ ref, h'.bus? ref = h.bus? ref) (hs : h'.stack = below)
    (hthere : (h.bus? ref).isSome) (e : Event) (after : After) :
    Effect h below (some (ref, .publish e)) (h'.publish ref e after) := by
  obtain ⟨b, hb'⟩ := Option.isSome_iff_exists.mp hthere
  simp only [Host.publish, hb ref, hb']
  refine Effect.onBus hb hs hthere ?_ g
  simp only [Bus.Live.react, view, bus_of_bus? hb']

theorem Effect.complete (g : Grounded h) (hb : ∀ ref, h'.bus? ref = h.bus? ref) (hs : h'.stack = below)
    (hthere : (h.bus? ref).isSome) (after : After) : Effect h below (some (ref, .complete)) (h'.complete ref after) := by
  obtain ⟨b, hb'⟩ := Option.isSome_iff_exists.mp hthere
  simp only [Host.complete, hb ref, hb']
  refine Effect.onBus hb hs hthere ?_ g
  simp only [Bus.Live.react, view, bus_of_bus? hb']

theorem Effect.attach (hthere : (h.bus? ref).isSome) (screen : Event → Screening) {completes : Bool} {l : Listener}
    (hl : completes = true → ∃ n, l = .client n) :
    Effect h h.stack (some (ref, .attach screen completes l)) (h.attach ref screen completes l) := by
  obtain ⟨b, hb⟩ := Option.isSome_iff_exists.mp hthere
  have hreact : (h.view ref).react (.attach screen completes l) = ((b.attach screen completes l).1,
      if b.completed && completes then some (.late (b.attach screen completes l).2.id) else none) := by
    simp only [Bus.Live.react, view, bus_of_bus? hb]
  cases hlate : b.completed && completes with
  | false =>
    rw [hlate] at hreact
    simp only [Host.attach, hb, hlate]
    exact Effect.moved (f := none) hreact (setBus_bus? hthere _) (setBus_stack h ref _) (returns_calls h _)
      (by simp)
  | true =>
    obtain ⟨n, rfl⟩ := hl ((Bool.and_eq_true_iff.mp hlate).2)
    rw [hlate] at hreact
    simp only [Host.attach, hb, hlate]
    have hcalls : Calls (some (.late ⟨ref, (b.attach screen completes (.client n)).2.id⟩)) [.callComplete n] :=
      Frame.Opens.late.calls
    refine Effect.moved hreact (setBus_bus? hthere _) ?_ hcalls fun q => ?_
    · simp [push, setBus_stack]
    · simp [Frame.on?]

end Effects

end Host
end ThingHost
