import ThingHost.Proofs.Host.Asked

/-! What each input does to the buses of a host: the one move that it asks for, and nothing else. -/

namespace ThingHost
namespace Host

variable {h h' : Host}

/-! ### Servients and Things -/

theorem publish_new (e : Event) : ((Bus.new : Bus Listener).publish e).1 = .new := rfl

/-- Declaring interactions on a Thing that nobody listens to leaves its bus as good as new. -/
theorem declareAll_bus {x y : ExposedThing} (hx : x.bus = .new) {l : List (InteractionKind × String × Value)}
    (hy : (declareAll x l).1 = .ok y) : y.bus = .new := by
  induction l generalizing x with
  | nil =>
    cases hy
    exact hx
  | cons d rest ih =>
    obtain ⟨kind, name, definition⟩ := d
    simp only [declareAll] at hy
    cases ha : x.add kind (.string name) definition none with
    | error t =>
      rw [ha] at hy
      cases hy
    | ok r =>
      rw [ha] at hy
      exact ih (by rw [ExposedThing.add_bus ha, hx, publish_new]) hy

theorem onServient_effect (h : Host) (servient : Nat) (f : Servient → Except ThingError Servient) (note : Note) :
    Effect h h.stack none (h.onServient servient f note) := by
  unfold onServient
  cases h.servients[servient]? with
  | none => exact Effect.nothing h
  | some s =>
    dsimp only
    cases f s with
    | error e => exact Effect.returns (fun _ => rfl) rfl _
    | ok s' =>
      have a := setServient_aside h servient s'
      exact (Effect.returns a.bus? a.stack _).prepend (noted_calls _ _)

theorem produce_effect (h : Host) (servient : Nat) (definition : Value) (freshId : String) :
    Effect h h.stack none (h.produce servient definition freshId) := by
  unfold produce
  cases h.servients[servient]? with
  | none => exact Effect.nothing h
  | some s =>
    dsimp only
    cases thingSchema.parse definition with
    | error issues => exact Effect.returns (fun _ => rfl) rfl _
    | ok parsed =>
      dsimp only
      split
      · exact Effect.returns (fun _ => rfl) rfl _
      · refine Effect.prepend (noted_calls _ _) ?_
        generalize hx : ExposedThing.new servient _ = x
        cases hd : (declareAll x (declarations parsed)).1 with
        | error t => exact Effect.returns (fun _ => rfl) rfl _
        | ok y =>
          dsimp only
          split
          · exact Effect.returns (fun _ => rfl) rfl _
          · refine Effect.prepend (noted_calls _ _) ?_
            have hy : y.bus = .new := declareAll_bus (by rw [← hx]; rfl) hd
            have hthings : ∀ z ∈ [y], z.bus = .new := by simpa using hy
            exact Effect.grown rfl (returns_calls h _) rfl hthings (List.append_nil h.buses).symm (by simp)

theorem withThing_effect {t : Nat} {f : ExposedThing → Step} {m : ExposedThing → Option (BusRef × Bus.Move Listener)}
    (he : ∀ x, h.things[t]? = some x → Effect h h.stack (m x) (f x)) :
    Effect h h.stack (h.things[t]?.bind m) (h.withThing t f) := by
  unfold withThing
  cases hx : h.things[t]? with
  | none => exact Effect.nothing h
  | some x => exact he x hx

theorem announce_effect (g : Grounded h) {t : Nat} {x : ExposedThing} (hx : h.things[t]? = some x) (note : Note)
    {r : Except Thrown (ExposedThing × Event)} (hr : ∀ y e, r = .ok (y, e) → y.bus = x.bus) :
    Effect h h.stack (announcing t r) (h.announce t note r) := by
  cases r with
  | error e => exact Effect.returns (fun _ => rfl) rfl _
  | ok r =>
    obtain ⟨y, e⟩ := r
    have a := setThing_aside hx (hr y e rfl)
    exact (Effect.publish g a.bus? a.stack (own_there hx) e _).prepend (noted_calls _ _)

theorem destroy_effect (g : Grounded h) (t : Nat) : Effect h h.stack (h.asks? (.destroy t)) (h.destroy t) := by
  refine withThing_effect fun x hx => ?_
  cases h.servients[x.servient]? with
  | none => exact Effect.nothing h
  | some s =>
    dsimp only [Option.bind_some]
    cases s.remove (.string x.id) with
    | error e => exact Effect.complete g (fun _ => rfl) rfl (own_there hx) _
    | ok s' =>
      have a := setServient_aside h x.servient s'
      exact (Effect.complete g a.bus? a.stack (own_there hx) _).prepend (noted_calls _ _)

/-! ### Calls -/

theorem settle_effect (hb : ∀ ref, h'.bus? ref = h.bus? ref) (hs : h'.stack = h.stack) (call : Nat) (outcome : Outcome) :
    Effect h h.stack none (h'.settle call outcome) := by
  have a := settle_aside h' call outcome
  exact Effect.still (fun ref => (a.bus? ref).trans (hb ref)) (a.stack.trans hs) (by simp [Output.calls])

theorem call_effect (h : Host) (t : Nat) (ask : Ask) : Effect h h.stack none (h.call t ask) := by
  unfold call withThing
  cases hx : h.things[t]? with
  | none => exact Effect.nothing h
  | some x =>
    dsimp only
    cases x.accept ask with
    | error e =>
      have a := startCall_aside h ⟨t, ask, none, .settled (refuse e)⟩
      exact (Effect.returns a.bus? a.stack _).prepend (by simp [Output.calls])
    | ok r =>
      obtain ⟨i, handler⟩ := r
      refine Effect.prepend (noted_calls _ _) ?_
      have a := startCall_aside h ⟨t, ask, some (i.serial, handler), .running⟩
      cases handler with
      | client c => exact Effect.opened a.bus? rfl (fun _ => rfl) Frame.Opens.handler.calls
      | broken =>
        have b := a.trans (answered_aside _ h.calls.length (.error (.fault .notCallable)))
        exact Effect.returns b.bus? b.stack _
      | standard =>
        have hx' : (h.startCall ⟨t, ask, some (i.serial, .standard), .running⟩).things[t]? = some x := hx
        have b := (a.trans (setThing_aside hx' (x.answer_bus ask))).trans
          (answered_aside _ h.calls.length (x.answer ask).2)
        exact Effect.returns b.bus? b.stack _

theorem finish_effect (hb : ∀ ref, h'.bus? ref = h.bus? ref) (hs : h'.stack = h.stack) (after : After) :
    Effect h h.stack none (h'.finish after) := by
  have a := finish_aside h' after
  exact Effect.still (fun ref => (a.bus? ref).trans (hb ref)) (a.stack.trans hs) (finish_calls h' after)

theorem resume_effect (g : Grounded h) (hb : ∀ ref, h'.bus? ref = h.bus? ref) (hs : h'.stack = h.stack)
    (hc : h'.calls = h.calls) (n : Nat) (answer : Outcome) :
    Effect h h.stack ((h.announced? n answer).map fun a => (a.1, .publish a.2)) (h'.resume n answer) := by
  have announced : ∀ (t : Nat) (e : Event) (after : After),
      Effect h h.stack (((h.bus? (.own t)).map fun _ => (BusRef.own t, e)).map fun a => (a.1, .publish a.2))
        (h'.publish (.own t) e after) := by
    intro t e after
    cases hx : h.bus? (.own t) with
    | none =>
      simp only [Host.publish, hb, hx]
      exact finish_effect hb hs after
    | some b => exact Effect.publish g hb hs (by rw [hx]; rfl) e after
  simp only [announced?, resume, hc]
  cases hcall : h.calls[n]? with
  | none => cases answer <;> exact Effect.still hb hs (by simp)
  | some c =>
    obtain ⟨thing, ask, accepted, progress⟩ := c
    cases answer with
    | error t => exact settle_effect hb hs n (.error t)
    | ok v =>
      cases ask with
      | read property => exact settle_effect hb hs n (.ok v)
      | write property value => exact announced thing _ _
      | invoke action arguments => exact announced thing _ _

/-! ### What is posted -/

theorem posted_effect (hb : ∀ ref, h'.bus? ref = h.bus? ref) (hs : h'.stack = h.stack) (n : Nat)
    (failure : Option Thrown) : Effect h h.stack none (h'.posted n failure) := by
  unfold posted
  cases h'.postings[n]? with
  | none => exact Effect.still hb hs (by simp)
  | some p =>
    have a := setStage_aside h' n .over
    refine Effect.still (fun ref => (a.bus? ref).trans (hb ref)) (a.stack.trans hs) ?_
    intro o ho
    rcases List.mem_append.mp ho with ho | ho
    · exact noted_calls _ _ o ho
    · obtain rfl := List.mem_singleton.mp ho
      rfl

theorem post_effect (h : Host) (broker : Nat) (thing : Value) (e : Event) :
    Effect h h.stack none (h.post broker thing e) := by
  unfold post
  split
  · exact Effect.returns (fun _ => rfl) rfl _
  · have a := startPosting_aside h thing e
    dsimp only
    split
    · exact Effect.opened a.bus? (by rw [push, a.stack]) (fun _ => rfl) Frame.Opens.posting.calls
    · have b := a.trans (setStage_aside _ (h.startPosting thing e).2 .over)
      refine (Effect.returns b.bus? b.stack _).prepend ?_
      intro o ho
      rcases List.mem_append.mp ho with ho | ho
      · exact noted_calls _ _ o ho
      · obtain rfl := List.mem_singleton.mp ho
        rfl

theorem brokerDone_calls (h : Host) (n : Nat) (r : Reply) : ∀ o ∈ (h.brokerDone n r).2, o.calls = false := by
  cases r with
  | done v => simp [brokerDone]
  | promised => simp [brokerDone]
  | threw t =>
    simp only [brokerDone, posted]
    split <;> simp [noted, Output.calls]

/-! ### Operations -/

theorem withThing_still {t : Nat} {f : ExposedThing → Step}
    (he : ∀ x, h.things[t]? = some x → Effect h h.stack none (f x)) : Effect h h.stack none (h.withThing t f) := by
  simpa using withThing_effect he

theorem bus_effect {ref : BusRef} {m : Bus.Move Listener} {s : Step} (habsent : h.bus? ref = none → Effect h h.stack none s)
    (hthere : ∀ b, h.bus? ref = some b → Effect h h.stack (some (ref, m)) s) :
    Effect h h.stack ((h.bus? ref).bind fun _ => some (ref, m)) s := by
  cases hb : h.bus? ref with
  | none => exact habsent hb
  | some b => exact hthere b hb

theorem unsubscribe_effect (h : Host) (s : SubscriptionRef) :
    Effect h h.stack (h.asks? (.unsubscribe s)) (h.unsubscribe s) := by
  refine bus_effect (fun hb => ?_) fun b hb => ?_
  · simp only [unsubscribe, hb]
    exact Effect.nothing h
  · have hthere : (h.bus? s.bus).isSome := by rw [hb]; rfl
    have hreact : (h.view s.bus).react (.unsubscribe s.id) = (b.unsubscribe s.id, none) := by
      simp only [Bus.Live.react, view, bus_of_bus? hb]
    simp only [unsubscribe, hb]
    exact Effect.moved (f := none) hreact (setBus_bus? hthere _) (setBus_stack h _ _) (returns_calls h _) (by simp)

theorem operate_effect (g : Grounded h) (op : Operation) : Effect h h.stack (h.asks? op) (h.operate op) := by
  cases op with
  | newServient =>
    have a : Aside h { h with servients := h.servients ++ [.empty] } := ⟨rfl, bus?_congr rfl rfl⟩
    exact Effect.returns a.bus? a.stack _
  | produce servient definition freshId => exact produce_effect h servient definition freshId
  | newThing servient id name description =>
    have hthings : ∀ z ∈ [ExposedThing.new servient (.new id name description)], z.bus = .new := by
      simp [ExposedThing.new]
    exact Effect.grown rfl (returns_calls h _) rfl hthings (List.append_nil h.buses).symm (by simp)
  | register servient t => exact withThing_still fun x _ => onServient_effect h _ _ _
  | enable servient id => exact onServient_effect h _ _ _
  | disable servient id => exact onServient_effect h _ _ _
  | removeThing servient id => exact onServient_effect h _ _ _
  | expose t => exact withThing_still fun x _ => onServient_effect h _ _ _
  | destroy t => exact destroy_effect g t
  | add t kind name definition handler =>
    exact withThing_effect fun x hx => announce_effect g hx _ fun y e hr => ExposedThing.add_bus hr
  | remove t kind name =>
    exact withThing_effect fun x hx => announce_effect g hx _ fun y e hr =>
      ExposedThing.remove_bus (ExposedThing.mapError_eq_ok.mp hr)
  | setHandler t kind handler name =>
    refine withThing_still fun x hx => ?_
    cases hset : x.setHandler kind (.client handler) name with
    | error e => exact Effect.returns (fun _ => rfl) rfl _
    | ok y =>
      have a := setThing_aside hx (ExposedThing.setHandler_bus hset)
      exact Effect.returns a.bus? a.stack _
  | emit t name payload =>
    refine withThing_effect fun x hx => ?_
    cases x.emitted name payload with
    | error e => exact Effect.returns (fun _ => rfl) rfl _
    | ok e => exact Effect.publish g (fun _ => rfl) rfl (own_there hx) e _
  | call t ask => exact call_effect h t ask
  | subscribe source client completes =>
    cases source with
    | topic t topic =>
      refine withThing_effect fun x hx => ?_
      cases x.screen topic with
      | error e => exact Effect.returns (fun _ => rfl) rfl _
      | ok screen => exact Effect.attach (own_there hx) screen fun _ => ⟨client, rfl⟩
    | bus n guard =>
      refine bus_effect (fun hb => ?_) fun b hb => ?_
      · simp only [operate, subscribe, attach, hb]
        exact Effect.nothing h
      · exact Effect.attach (by rw [hb]; rfl) _ fun _ => ⟨client, rfl⟩
  | unsubscribe s => exact unsubscribe_effect h s
  | newBus =>
    exact Effect.grown rfl (returns_calls h _) (List.append_nil h.things).symm (by simp) rfl (by simp)
  | publish n e =>
    refine bus_effect (fun hb => ?_) fun b hb => ?_
    · simp only [operate, Host.publish, hb]
      exact finish_effect (fun _ => rfl) rfl _
    · exact Effect.publish g (fun _ => rfl) rfl (by rw [hb]; rfl) e _
  | complete n =>
    refine bus_effect (fun hb => ?_) fun b hb => ?_
    · simp only [operate, Host.complete, hb]
      exact finish_effect (fun _ => rfl) rfl _
    · exact Effect.complete g (fun _ => rfl) rfl (by rw [hb]; rfl) _
  | relay t broker =>
    refine withThing_effect fun x hx => Effect.attach (own_there hx) _ fun hf => ?_
    cases hf
  | post broker thing e => exact post_effect h broker thing e

/-! ### Inputs -/

/-- The bus on which the client code on top of the stack runs, with that code called last. -/
theorem view_of_stack (g : Grounded h) {f : Frame} {stack : List Frame} (hs : h.stack = f :: stack) {ref : BusRef}
    {r : Bus.Running Listener} (hf : f.on? ref = some r) :
    ∃ b, h.bus? ref = some b ∧ h.view ref = ⟨b, r :: stack.filterMap (Frame.on? ref)⟩ := by
  obtain ⟨b, hb⟩ := Option.isSome_iff_exists.mp (g.there f (by simp [hs]) ref (by simp [hf]))
  exact ⟨b, hb, by simp only [view, bus_of_bus? hb, hs, List.filterMap_cons, hf]⟩

/-- A subscription has been told that it came late: nothing else happens on its bus. -/
theorem late_effect (g : Grounded h) {s : SubscriptionRef} {stack : List Frame} (hs : h.stack = .late s :: stack)
    (r : Reply) : Effect h stack (some (s.bus, .done r.thrown?)) ({ h with stack }.replied r (.late s)) := by
  have hf : (Frame.late s).on? s.bus = some (.late s.id) := if_pos rfl
  obtain ⟨b, hb, hview⟩ := view_of_stack g hs hf
  have hreact : (h.view s.bus).react (.done r.thrown?) = (b, none) := by
    rw [hview]
    rfl
  have hbus : ∀ q, h.bus? q = if q = s.bus then some b else h.bus? q := by
    intro q
    split
    · subst q
      exact hb
    · rfl
  cases r <;> exact Effect.moved (f := none) hreact hbus rfl (returns_calls h _) (by simp)

theorem replied_effect (g : Grounded h) {f : Frame} {stack : List Frame} (hs : h.stack = f :: stack) (r : Reply) :
    Effect h stack (h.move? (.reply r)) ({ h with stack }.replied r f) := by
  have hk : ∀ q, { h with stack }.bus? q = h.bus? q := bus?_congr rfl rfl
  cases f with
  | next ref d after =>
    have hf : (Frame.next ref d after).on? ref = some (.next d) := if_pos rfl
    obtain ⟨b, hb, hview⟩ := view_of_stack g hs hf
    simp only [move?, hs, replied, (hk ref).trans hb]
    refine Effect.onBus hk rfl (by rw [hb]; rfl) ?_ g
    rw [hview]
    rfl
  | complete ref c after =>
    have hf : (Frame.complete ref c after).on? ref = some (.complete c) := if_pos rfl
    obtain ⟨b, hb, hview⟩ := view_of_stack g hs hf
    simp only [move?, hs, replied, (hk ref).trans hb]
    refine Effect.onBus hk rfl (by rw [hb]; rfl) ?_ g
    rw [hview]
    rfl
  | relaying n ref d after =>
    have hf : (Frame.relaying n ref d after).on? ref = some (.next d) := if_pos rfl
    obtain ⟨b, hb, hview⟩ := view_of_stack g hs hf
    have a := brokerDone_aside { h with stack } n r
    simp only [move?, hs, replied, (a.bus? ref).trans ((hk ref).trans hb)]
    refine (Effect.onBus (fun q => (a.bus? q).trans (hk q)) a.stack (by rw [hb]; rfl) ?_ g).prepend
      (brokerDone_calls _ n r)
    rw [hview]
    rfl
  | late s =>
    simp only [move?, hs]
    exact late_effect g hs r
  | handler n =>
    simp only [move?, hs, replied]
    cases r with
    | done v =>
      have a := answered_aside { h with stack } n (.ok v)
      exact Effect.returns (fun q => (a.bus? q).trans (hk q)) a.stack _
    | threw t =>
      have a := answered_aside { h with stack } n (.error t)
      exact Effect.returns (fun q => (a.bus? q).trans (hk q)) a.stack _
    | promised =>
      have a := setProgress_aside { h with stack } n .waiting
      exact Effect.returns (fun q => (a.bus? q).trans (hk q)) a.stack _
  | posting n =>
    have a := brokerDone_aside { h with stack } n r
    simp only [move?, hs, replied]
    exact (Effect.returns (fun q => (a.bus? q).trans (hk q)) a.stack _).prepend
      (brokerDone_calls _ n r)
  | woken =>
    simp only [move?, hs, replied]
    exact Effect.still hk rfl (by simp)

theorem work_effect (g : Grounded h) :
    Effect h h.stack (h.resumed?.map fun a => (a.1, .publish a.2)) h.work := by
  simp only [resumed?, work]
  cases hq : h.queue with
  | nil => exact Effect.nothing h
  | cons job queue =>
    have hk : ∀ q, { h with queue }.bus? q = h.bus? q := bus?_congr rfl rfl
    cases job with
    | resume n answer => exact resume_effect g hk rfl rfl n answer
    | posted n failure => exact posted_effect hk rfl n failure
    | wake token => exact Effect.opened hk rfl (fun _ => rfl) Frame.Opens.woken.calls

/-- An input makes the move that it asks for, and nothing else on any bus. -/
theorem step_effect (g : Grounded h) (i : Input) : Effect h (h.base i) (h.move? i) (h.step i) := by
  cases i with
  | operate op => exact operate_effect g op
  | reply r =>
    cases hs : h.stack with
    | nil => simpa [step, move?, base, hs] using Effect.nothing h
    | cons f stack => simpa [step, base, hs] using replied_effect g hs r
  | answer n outcome =>
    simp only [step]
    split
    · have a := answered_aside h n outcome
      exact Effect.still a.bus? a.stack (by simp)
    · exact Effect.nothing h
  | acknowledge n failure =>
    simp only [step]
    split
    · have a := (setStage_aside h n .answered).trans (enqueue_aside _ (.posted n failure))
      exact Effect.still a.bus? a.stack (by simp)
    · exact Effect.nothing h
  | defer token =>
    have a := enqueue_aside h (.wake token)
    exact Effect.still a.bus? a.stack (by simp)
  | tick =>
    cases hs : h.stack.isEmpty with
    | true => simpa [step, move?, base, hs] using work_effect g
    | false => simpa [step, move?, base, hs] using Effect.nothing h
  | setClock ms => exact Effect.still (bus?_congr rfl rfl) rfl (by simp)

/-! ### A bus among others -/

/-- What an input other than a reply asks of a bus is no end of code. -/
theorem moveOn_rest {ref : BusRef} {i : Input} {m : Bus.Move Listener} (hi : ∀ r, i ≠ .reply r)
    (hm : moveOn ref h i = some m) : (h.view ref).rest m = (h.view ref).running := by
  cases asked_of_move hm with
  | done => exact absurd rfl (hi _)
  | _ => rfl

/-- The code that waits below what an input starts. -/
theorem base_view (h : Host) (i : Input) (ref : BusRef) :
    (h.base i).filterMap (Frame.on? ref) = match moveOn ref h i with
      | some m => (h.view ref).rest m
      | none => (h.view ref).running := by
  by_cases hi : ∀ r, i ≠ .reply r
  · have hbase : h.base i = h.stack := by
      cases i with
      | reply r => exact absurd rfl (hi r)
      | _ => rfl
    rw [hbase]
    cases hm : moveOn ref h i with
    | none => rfl
    | some m => exact (moveOn_rest hi hm).symm
  · obtain ⟨r, rfl⟩ : ∃ r, i = .reply r := by simpa using hi
    cases hs : h.stack with
    | nil => simp [base, moveOn, move?, on, view, hs]
    | cons f stack =>
      obtain ⟨thrown, hm⟩ := moveOn_reply hs r
      rw [hm ref]
      cases hf : f.on? ref <;> simp [base, view, hs, hf, Bus.Live.rest]

/-- A step of a host, seen from one of its buses: the move that the input makes on it, if it makes one. -/
theorem step_view (g : Grounded h) (i : Input) (ref : BusRef) :
    (h.step i).1.view ref = match moveOn ref h i with
      | some m => (h.view ref).step m
      | none => h.view ref := by
  have e := step_effect g i
  obtain ⟨f, hs, -, hf⟩ := e.code
  have hrun : ((h.step i).1.view ref).running =
      (f.bind (Frame.on? ref)).toList ++ (h.base i).filterMap (Frame.on? ref) := by
    simp only [view, hs, List.filterMap_append]
    cases f with
    | none => rfl
    | some f => cases hon : f.on? ref <;> simp [hon]
  have hb := e.bus ref
  rw [hf ref, base_view] at hrun
  have hext : (h.step i).1.view ref = ⟨(h.step i).1.bus ref, ((h.step i).1.view ref).running⟩ := rfl
  rw [hext, hrun, hb]
  simp only [moveOn]
  cases on ref (h.move? i) with
  | none => rfl
  | some m => rfl

theorem move?_there (g : Grounded h) {i : Input} {ref : BusRef} {m : Bus.Move Listener}
    (hm : h.move? i = some (ref, m)) : (h.bus? ref).isSome := by
  cases asked_of_move (on_eq_some.mpr hm) with
  | announced there => exact there
  | published there => exact there
  | listening there => exact own_there there
  | guarded there => exact there
  | relayed there => exact own_there there
  | left there => exact there
  | completed there => exact there
  | destroyed there => exact own_there there
  | done top runs => exact g.there _ (by simp [top]) ref runs

theorem Grounded.step (g : Grounded h) (i : Input) : Grounded (h.step i).1 := by
  have e := step_effect g i
  refine ⟨fun f hf ref hon => ?_, fun ref => ?_⟩
  · obtain ⟨f', hs, -, hf'⟩ := e.code
    rw [hs] at hf
    rcases List.mem_append.mp hf with hf | hf
    · obtain rfl := Option.mem_toList.mp hf
      cases hm : on ref (h.move? i) with
      | none =>
        have := hf' ref
        rw [hm] at this
        exact absurd this hon
      | some m => exact e.kept ref (move?_there g (on_eq_some.mp hm))
    · have hmem : f ∈ h.stack := by
        cases i with
        | reply r => exact List.mem_of_mem_tail hf
        | _ => exact hf
      exact e.kept ref (g.there f hmem ref hon)
  · rw [step_view g]
    cases hm : moveOn ref h i with
    | none => exact g.owners ref
    | some m =>
      refine (g.owners ref).step fun s hs => ?_
      cases asked_of_move hm with
      | listening =>
        cases hs
        exact fun _ => ⟨_, rfl⟩
      | guarded =>
        cases hs
        exact fun _ => ⟨_, rfl⟩
      | relayed =>
        cases hs
        exact fun hcompletes => by cases hcompletes
      | _ => cases hs

theorem grounded_new : Grounded Host.new := by
  refine ⟨fun f hf => ?_, fun ref => ?_⟩
  · cases hf
  · have hview : Host.new.view ref = Bus.Live.new := by cases ref <;> rfl
    rw [hview]
    exact ⟨by simp [Bus.Live.new, Bus.new], by simp [Bus.Live.new, Bus.remaining]⟩

end Host
end ThingHost
