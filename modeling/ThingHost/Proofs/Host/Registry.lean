import ThingHost.Proofs.Host.Past
import ThingHost.Proofs.Servient

/-! Which Things are registered on the servients of a host, and which of them are enabled. A servient goes by ids: a
    Thing that is exposed or destroyed does so under its id, whichever Thing is registered under it. What is known
    of other ids stays as it is. -/

namespace ThingHost

/-- The operation is about which Things are registered or enabled. -/
def Operation.registers : Operation → Bool
  | .newServient => true
  | .produce .. => true
  | .register .. => true
  | .enable .. => true
  | .disable .. => true
  | .removeThing .. => true
  | .expose _ => true
  | .destroy _ => true
  | _ => false

def Input.registers : Input → Bool
  | .operate op => op.registers
  | _ => false

namespace Host

/-- What the servients of a host know of an id: the Thing that is registered under it, and whether it is enabled. -/
def entry (h : Host) (servient : Nat) (id : Value) : Option Nat × Bool := (h.registered? servient id, h.isEnabled servient id)

/-! ### What leaves the servients alone -/

section Apart
variable {h h' : Host}

theorem setProgress_servients (h : Host) (n : Nat) (p : Progress) : (h.setProgress n p).servients = h.servients := by
  unfold setProgress
  split <;> rfl

theorem setStage_servients (h : Host) (n : Nat) (s : Stage) : (h.setStage n s).servients = h.servients := by
  unfold setStage
  split <;> rfl

theorem setBus_servients (h : Host) (ref : BusRef) (b : Bus Listener) : (h.setBus ref b).servients = h.servients := by
  cases ref with
  | alone n => rfl
  | own t =>
    simp only [setBus]
    split <;> rfl

theorem finish_servients (h : Host) (after : After) : (h.finish after).1.servients = h.servients := by
  cases after with
  | returned r => rfl
  | settled n o => exact setProgress_servients h n _

theorem follow_servients (h : Host) (ref : BusRef) (after : After) (turn : Turn Listener) :
    (h.follow ref after turn).1.servients = h.servients := by
  rcases turn with _ | d | c
  · exact finish_servients h after
  · simp only [follow]
    split <;> rfl
  · simp only [follow]
    split
    · rfl
    · exact finish_servients h after

theorem onBus_servients (h : Host) (ref : BusRef) (after : After) (r : Bus Listener × List Note × Turn Listener) :
    (h.onBus ref after r).1.servients = h.servients :=
  (follow_servients _ ref after r.2.2).trans (setBus_servients h ref r.1)

theorem publish_servients (h : Host) (ref : BusRef) (e : Event) (after : After) :
    (h.publish ref e after).1.servients = h.servients := by
  unfold Host.publish
  split
  · exact onBus_servients h ref after _
  · exact finish_servients h after

theorem complete_servients (h : Host) (ref : BusRef) (after : After) :
    (h.complete ref after).1.servients = h.servients := by
  unfold Host.complete
  split
  · exact onBus_servients h ref after _
  · exact finish_servients h after

theorem complete_others (h : Host) {t u : Nat} (hu : u ≠ t) (after : After) :
    (h.complete (.own t) after).1.things[u]? = h.things[u]? := by
  unfold Host.complete
  split
  · rw [onBus, prepend, follow_things]
    simp only [setBus]
    split
    · exact List.getElem?_set_ne (Ne.symm hu)
    · rfl
  · exact congrArg (·[u]?) (follow_things h (.own t) after .over)

theorem attach_servients (h : Host) (ref : BusRef) (screen : Event → Screening) (completes : Bool) (l : Listener) :
    (h.attach ref screen completes l).1.servients = h.servients := by
  unfold Host.attach
  split
  · rfl
  · dsimp only
    split <;> exact setBus_servients h ref _

theorem posted_servients (h : Host) (n : Nat) (failure : Option Thrown) :
    (h.posted n failure).1.servients = h.servients := by
  unfold posted
  split
  · rfl
  · exact setStage_servients h n .over

theorem brokerDone_servients (h : Host) (n : Nat) (r : Reply) : (h.brokerDone n r).1.servients = h.servients := by
  cases r with
  | done v => exact setStage_servients h n .answered
  | threw t => exact posted_servients h n (some t)
  | promised => exact setStage_servients h n .waiting

theorem post_servients (h : Host) (broker : Nat) (thing : Value) (e : Event) :
    (h.post broker thing e).1.servients = h.servients := by
  unfold post
  split
  · rfl
  · dsimp only
    split
    · rfl
    · exact setStage_servients _ _ _

theorem withThing_servients {t : Nat} {f : ExposedThing → Step} (hf : ∀ x, (f x).1.servients = h.servients) :
    (h.withThing t f).1.servients = h.servients := by
  unfold withThing
  split
  · exact hf _
  · rfl

theorem announce_servients (h : Host) (t : Nat) (note : Note) (r : Except Thrown (ExposedThing × Event)) :
    (h.announce t note r).1.servients = h.servients := by
  cases r with
  | error e => rfl
  | ok r => exact publish_servients _ _ _ _

theorem call_servients (h : Host) (t : Nat) (ask : Ask) : (h.call t ask).1.servients = h.servients := by
  refine withThing_servients fun x => ?_
  dsimp only
  split
  · rfl
  · rename_i handler _
    cases handler with
    | client c => rfl
    | broken => exact setProgress_servients _ _ _
    | standard => exact setProgress_servients _ _ _

theorem resume_servients (h : Host) (n : Nat) (answer : Outcome) : (h.resume n answer).1.servients = h.servients := by
  unfold resume
  split
  · rfl
  · split
    · exact setProgress_servients h n _
    · exact setProgress_servients h n _
    · exact publish_servients h _ _ _
    · exact publish_servients h _ _ _

theorem replied_servients (h : Host) (r : Reply) (f : Frame) : (h.replied r f).1.servients = h.servients := by
  cases f with
  | next ref d after =>
    simp only [replied]
    split
    · exact onBus_servients h ref after _
    · rfl
  | complete ref c after =>
    simp only [replied]
    split
    · exact onBus_servients h ref after _
    · rfl
  | late s => cases r <;> rfl
  | handler n => cases r <;> exact setProgress_servients h n _
  | relaying n ref d after =>
    have hdone := brokerDone_servients h n r
    simp only [replied, prepend]
    split
    · exact (onBus_servients _ ref after _).trans hdone
    · exact hdone
  | posting n => exact brokerDone_servients h n r
  | woken => rfl

/-- Operations on Things that are not about their registration, and on buses, leave servients alone. -/
theorem operate_servients (h : Host) {op : Operation} (hop : op.registers = false) :
    (h.operate op).1.servients = h.servients := by
  cases op with
  | newThing servient id name description => rfl
  | newBus => rfl
  | add t kind name definition handler => exact withThing_servients fun x => announce_servients h _ _ _
  | remove t kind name => exact withThing_servients fun x => announce_servients h _ _ _
  | setHandler t kind handler name =>
    refine withThing_servients fun x => ?_
    split <;> rfl
  | emit t name payload =>
    refine withThing_servients fun x => ?_
    split
    · exact publish_servients h _ _ _
    · rfl
  | call t ask => exact call_servients h t ask
  | subscribe source client completes =>
    cases source with
    | topic t topic =>
      refine withThing_servients fun x => ?_
      split
      · rfl
      · exact attach_servients h _ _ _ _
    | bus n guard => exact attach_servients h _ _ _ _
  | unsubscribe s =>
    show (h.unsubscribe s).1.servients = h.servients
    unfold unsubscribe
    split
    · rfl
    · exact setBus_servients h _ _
  | publish n e => exact publish_servients h _ _ _
  | complete n => exact complete_servients h _ _
  | relay t broker => exact withThing_servients fun x => attach_servients h _ _ _ _
  | post broker thing e => exact post_servients h broker thing e
  | _ => cases hop

/-- Only operations do anything to servients. -/
theorem step_servients (h : Host) {i : Input} (hi : ∀ op, i ≠ .operate op) : (h.step i).1.servients = h.servients := by
  cases i with
  | operate op => exact absurd rfl (hi op)
  | reply r =>
    simp only [step]
    split
    · rfl
    · exact replied_servients _ _ _
  | answer n outcome =>
    simp only [step]
    split
    · exact setProgress_servients h n .answered
    · rfl
  | acknowledge n failure =>
    simp only [step]
    split
    · exact setStage_servients h n .answered
    · rfl
  | defer token => rfl
  | tick =>
    simp only [step]
    split
    · unfold work
      split
      · rfl
      · rename_i job queue _
        cases job with
        | resume n answer => exact resume_servients { h with queue } n answer
        | posted n failure => exact posted_servients { h with queue } n failure
        | wake token => rfl
    · rfl
  | setClock ms => rfl

/-- What is not about registration leaves servients alone. -/
theorem step_keeps_servients (h : Host) {i : Input} (hi : i.registers = false) : (h.step i).1.servients = h.servients := by
  cases i with
  | operate op => exact operate_servients h hi
  | _ => exact step_servients h (by simp)

theorem run_servients (h : Host) {inputs : List Input} (hi : ∀ i ∈ inputs, ∀ op, i ≠ .operate op) :
    (h.run inputs).1.servients = h.servients := by
  induction inputs generalizing h with
  | nil => rfl
  | cons i inputs ih =>
    have hstep := step_servients h (hi i List.mem_cons_self)
    exact (ih (h.step i).1 fun j hj => hi j (List.mem_cons_of_mem _ hj)).trans hstep

end Apart

/-! ### What a step does to them -/

/-- The servients of a host are left alone, or one is new, or one of them sets an entry. -/
inductive Registers (h h' : Host) : Prop where
  | same (same : h'.servients = h.servients)
  | opened (grown : h'.servients = h.servients ++ [.empty])
  | alters {n : Nat} {s s' : Servient} (there : h.servients[n]? = some s) (set : h'.servients = h.servients.set n s')
      (alters : s.Alters h'.things s')

section Steps
variable {h : Host}

theorem onServient_registers (n : Nat) {f : Servient → Except ThingError Servient} (note : Note)
    (hf : ∀ s s', f s = .ok s' → s.Alters h.things s') : Registers h (h.onServient n f note).1 := by
  unfold onServient
  cases hs : h.servients[n]? with
  | none => exact .same rfl
  | some s =>
    dsimp only
    cases hok : f s with
    | error e => exact .same rfl
    | ok s' => exact .alters hs rfl (hf s s' hok)

theorem withThing_registers {t : Nat} {f : ExposedThing → Step}
    (hf : ∀ x, h.things[t]? = some x → Registers h (f x).1) : Registers h (h.withThing t f).1 := by
  unfold withThing
  cases hx : h.things[t]? with
  | none => exact .same rfl
  | some x => exact hf x hx

theorem destroy_registers (h : Host) (t : Nat) : Registers h (h.destroy t).1 := by
  refine withThing_registers fun x hx => ?_
  cases hs : h.servients[x.servient]? with
  | none => exact .same rfl
  | some s =>
    dsimp only
    cases hr : s.remove (.string x.id) with
    | error e => exact .same (complete_servients h _ _)
    | ok s' => exact .alters hs (complete_servients _ _ _) (Servient.remove_alters hr)

theorem declareAll_id {x y : ExposedThing} {ns : List (InteractionKind × String × Value)}
    (hy : (declareAll x ns).1 = .ok y) : y.id = x.id := by
  induction ns generalizing x with
  | nil =>
    cases hy
    rfl
  | cons n ns ih =>
    obtain ⟨kind, name, definition⟩ := n
    simp only [declareAll] at hy
    rcases hr : x.add kind (.string name) definition none with e | ⟨x', e⟩
    · rw [hr] at hy
      cases hy
    · rw [hr] at hy
      obtain ⟨s, parsed, -, -, -, -, hx', -⟩ := ExposedThing.add_eq_ok.mp hr
      have hid : y.id = x'.id := ih (x := { x' with bus := (x'.bus.publish e).1 }) hy
      rw [hid, hx']
      rfl

theorem produce_registers (h : Host) (servient : Nat) (definition : Value) (freshId : String) :
    Registers h (h.produce servient definition freshId).1 := by
  cases hs : h.servients[servient]? with
  | none => exact .same (by simp [produce, hs])
  | some s =>
    cases hp : thingSchema.parse definition with
    | error issues => exact .same (by simp [produce, hs, hp, returns])
    | ok parsed =>
      cases hid : s.has ((parsed.text? "id").getD freshId) with
      | true => exact .same (by simp [produce, hs, hp, hid, returns])
      | false =>
        rcases hd : declareAll (ExposedThing.new servient (.new ((parsed.text? "id").getD freshId)
            ((parsed.text? "name").getD "") (parsed.text? "description"))) (declarations parsed) with ⟨_ | x, notes⟩
        · exact .same (by simp [produce, hs, hp, hid, hd, returns, prepend])
        · cases hr : s.register ((parsed.text? "id").getD freshId) h.things.length with
          | error e => exact .same (by simp [produce, hs, hp, hid, hd, hr, returns, prepend])
          | ok s' =>
            have hafter : (h.produce servient definition freshId).1 =
                { h with things := h.things ++ [x] }.setServient servient s' := by
              simp [produce, hs, hp, hid, hd, hr, returns, prepend]
            have hx : x.id = (parsed.text? "id").getD freshId := declareAll_id (congrArg Prod.fst hd)
            rw [← hx] at hr
            refine .alters hs (by rw [hafter]; rfl) ?_
            rw [hafter]
            exact Servient.register_alters (by simp [setServient]) hr

theorem operate_registers (h : Host) (op : Operation) : Registers h (h.operate op).1 := by
  cases op with
  | newServient => exact .opened rfl
  | produce servient definition freshId => exact produce_registers h servient definition freshId
  | register n t =>
    exact withThing_registers fun x hx => onServient_registers n _ fun s s' hs => Servient.register_alters hx hs
  | enable n id => exact onServient_registers n _ fun s s' hs => Servient.enable_alters hs
  | disable n id => exact onServient_registers n _ fun s s' hs => Servient.disable_alters hs
  | removeThing n id => exact onServient_registers n _ fun s s' hs => Servient.remove_alters hs
  | expose t =>
    exact withThing_registers fun x _ => onServient_registers x.servient _ fun s s' hs => Servient.enable_alters hs
  | destroy t => exact destroy_registers h t
  | _ => exact .same (operate_servients h rfl)

theorem step_registers (h : Host) (i : Input) : Registers h (h.step i).1 := by
  cases i with
  | operate op => exact operate_registers h op
  | _ => exact .same (step_servients h (by simp))

/-- Things keep their ids. -/
theorem step_id {t : Nat} {x : ExposedThing} (hx : h.things[t]? = some x) (i : Input) :
    ∃ y, (h.step i).1.things[t]? = some y ∧ y.id = x.id := by
  obtain ⟨y, b, hd, hy⟩ := step_does hx i
  exact ⟨_, hy, hd.id⟩

end Steps

/-! ### A run -/

theorem orderly_reached (inputs : List Input) :
    ∀ s ∈ (reached inputs).servients, Servient.Orderly (reached inputs).things s := by
  induction inputs using List.reverseRecOn with
  | nil =>
    intro s hs
    obtain rfl := List.mem_singleton.mp hs
    exact Servient.orderly_empty _
  | append_singleton inputs i ih =>
    rw [reached_snoc]
    have hkept : ∀ s ∈ (reached inputs).servients, Servient.Orderly ((reached inputs).step i).1.things s :=
      fun s hs => (ih s hs).kept fun t x hx => step_id hx i
    intro s hs
    rcases step_registers (reached inputs) i with same | grown | @⟨n, s₀, s', there, set, alters⟩
    · exact hkept s (same ▸ hs)
    · rw [grown] at hs
      rcases List.mem_append.mp hs with hs | hs
      · exact hkept s hs
      · obtain rfl := List.mem_singleton.mp hs
        exact Servient.orderly_empty _
    · rw [set] at hs
      rcases List.mem_or_eq_of_mem_set hs with hs | rfl
      · exact hkept s hs
      · exact (hkept s₀ (List.mem_of_getElem? there)).alters alters

end Host
end ThingHost
