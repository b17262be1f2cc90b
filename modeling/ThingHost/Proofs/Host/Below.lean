import ThingHost.Host.Step

/-! What waits on the stack is not looked at. An operation, the work in the queue and what goes on when code is done
    come to the same, whatever waits below the code that runs. -/

namespace ThingHost
namespace Host

/-- A host whose code runs on top of other code. -/
def onto (below : List Frame) (h : Host) : Host := { h with stack := h.stack ++ below }

/-- The same step on top of other code. -/
def Step.onto (below : List Frame) (s : Step) : Step := (s.1.onto below, s.2)

section Parts
variable (below : List Frame) (h : Host)

theorem onto_bus? (ref : BusRef) : (h.onto below).bus? ref = h.bus? ref := by cases ref <;> rfl

theorem onto_busThing (ref : BusRef) : (h.onto below).busThing ref = h.busThing ref := by cases ref <;> rfl

theorem onto_setBus (ref : BusRef) (b : Bus Listener) : (h.onto below).setBus ref b = (h.setBus ref b).onto below := by
  cases ref with
  | alone n => rfl
  | own t =>
    have hthings : (h.onto below).things = h.things := rfl
    simp only [setBus, hthings]
    split <;> rfl

theorem onto_setProgress (n : Nat) (p : Progress) : (h.onto below).setProgress n p = (h.setProgress n p).onto below := by
  have hcalls : (h.onto below).calls = h.calls := rfl
  simp only [setProgress, hcalls]
  split <;> rfl

theorem onto_setStage (n : Nat) (s : Stage) : (h.onto below).setStage n s = (h.setStage n s).onto below := by
  have hpostings : (h.onto below).postings = h.postings := rfl
  simp only [setStage, hpostings]
  split <;> rfl

theorem onto_answered (n : Nat) (answer : Outcome) : (h.onto below).answered n answer = (h.answered n answer).onto below := by
  simp only [answered, onto_setProgress]
  rfl

theorem onto_prepend (out : List Output) (s : Step) : prepend out (s.onto below) = (prepend out s).onto below := rfl

/-! ### What a step does -/

theorem onto_finish (after : After) : (h.onto below).finish after = (h.finish after).onto below := by
  cases after with
  | returned r => rfl
  | settled n outcome =>
    simp only [finish, settle, onto_setProgress]
    rfl

theorem onto_follow (ref : BusRef) (after : After) (turn : Turn Listener) :
    (h.onto below).follow ref after turn = (h.follow ref after turn).onto below := by
  rcases turn with _ | d | c
  · exact onto_finish below h after
  · cases ho : d.current.owner <;> simp only [follow, ho] <;> rfl
  · cases ho : c.current.owner with
    | client n =>
      simp only [follow, ho]
      rfl
    | relay broker thing =>
      simp only [follow, ho]
      exact onto_finish below h after

theorem onto_onBus (ref : BusRef) (after : After) (x : Bus Listener × List Note × Turn Listener) :
    (h.onto below).onBus ref after x = (h.onBus ref after x).onto below := by
  rw [onBus, onto_busThing, onto_setBus, onto_follow]
  rfl

theorem onto_publish (ref : BusRef) (e : Event) (after : After) :
    (h.onto below).publish ref e after = (h.publish ref e after).onto below := by
  simp only [publish, onto_bus?]
  cases h.bus? ref with
  | none => exact onto_finish below h after
  | some b => exact onto_onBus below h ref after _

theorem onto_complete (ref : BusRef) (after : After) :
    (h.onto below).complete ref after = (h.complete ref after).onto below := by
  simp only [complete, onto_bus?]
  cases h.bus? ref with
  | none => exact onto_finish below h after
  | some b => exact onto_onBus below h ref after _

theorem onto_attach (ref : BusRef) (screen : Event → Screening) (completes : Bool) (l : Listener) :
    (h.onto below).attach ref screen completes l = (h.attach ref screen completes l).onto below := by
  simp only [attach, onto_bus?, onto_setBus]
  cases h.bus? ref with
  | none => rfl
  | some b =>
    dsimp only
    split <;> rfl

theorem onto_onServient (servient : Nat) (f : Servient → Except ThingError Servient) (note : Note) :
    (h.onto below).onServient servient f note = (h.onServient servient f note).onto below := by
  have hservients : (h.onto below).servients = h.servients := rfl
  simp only [onServient, hservients]
  split
  · rfl
  · split <;> rfl

theorem onto_withThing (t : Nat) {f g : ExposedThing → Step} (hf : ∀ x, g x = (f x).onto below) :
    (h.onto below).withThing t g = (h.withThing t f).onto below := by
  have hthings : (h.onto below).things = h.things := rfl
  simp only [withThing, hthings]
  split
  · exact hf _
  · rfl

theorem onto_produce (servient : Nat) (definition : Value) (freshId : String) :
    (h.onto below).produce servient definition freshId = (h.produce servient definition freshId).onto below := by
  have hservients : (h.onto below).servients = h.servients := rfl
  have hthings : (h.onto below).things = h.things := rfl
  simp only [produce, hservients, hthings]
  split
  · rfl
  · split
    · rfl
    · split
      · rfl
      · rw [← onto_prepend]
        congr 1
        split
        · rfl
        · split <;> rfl

theorem onto_announce (t : Nat) (note : Note) (r : Except Thrown (ExposedThing × Event)) :
    (h.onto below).announce t note r = (h.announce t note r).onto below := by
  cases r with
  | error e => rfl
  | ok r => exact congrArg (prepend _) (onto_publish below (h.setThing t r.1) (.own t) r.2 _)

theorem onto_destroy (t : Nat) : (h.onto below).destroy t = (h.destroy t).onto below := by
  have hservients : (h.onto below).servients = h.servients := rfl
  refine onto_withThing below h t fun x => ?_
  simp only [hservients]
  split
  · rfl
  · rename_i s _
    split
    · rename_i s' _
      exact congrArg (prepend _) (onto_complete below (h.setServient x.servient s') (.own t) _)
    · exact onto_complete below h (.own t) _

theorem onto_call (t : Nat) (ask : Ask) : (h.onto below).call t ask = (h.call t ask).onto below := by
  have hcalls : (h.onto below).calls = h.calls := rfl
  refine onto_withThing below h t fun x => ?_
  simp only [hcalls]
  rcases x.accept ask with e | ⟨i, handler⟩
  · rfl
  · refine (onto_prepend below _ _ ▸ congrArg (prepend _) ?_)
    cases handler with
    | client c => rfl
    | broken =>
      show returns (((h.startCall _).onto below).answered _ _) _ = _
      rw [onto_answered]
      rfl
    | standard =>
      show returns ((((h.startCall _).setThing t _).onto below).answered _ _) _ = _
      rw [onto_answered]
      rfl

theorem onto_subscribe (source : Source) (client : Nat) (completes : Bool) :
    (h.onto below).subscribe source client completes = (h.subscribe source client completes).onto below := by
  cases source with
  | topic t topic =>
    refine onto_withThing below h t fun x => ?_
    split
    · rfl
    · exact onto_attach below h _ _ _ _
  | bus n guard => exact onto_attach below h _ _ _ _

theorem onto_unsubscribe (s : SubscriptionRef) : (h.onto below).unsubscribe s = (h.unsubscribe s).onto below := by
  simp only [unsubscribe, onto_bus?, onto_setBus]
  split <;> rfl

theorem onto_post (broker : Nat) (thing : Value) (e : Event) :
    (h.onto below).post broker thing e = (h.post broker thing e).onto below := by
  have hclock : (h.onto below).clock = h.clock := rfl
  simp only [post, hclock]
  split
  · rfl
  · split
    · rfl
    · refine (onto_prepend below _ _ ▸ congrArg (prepend _) ?_)
      show returns (((h.startPosting thing e).1.onto below).setStage _ _) _ = _
      rw [onto_setStage]
      rfl

theorem onto_posted (n : Nat) (failure : Option Thrown) : (h.onto below).posted n failure = (h.posted n failure).onto below := by
  have hpostings : (h.onto below).postings = h.postings := rfl
  simp only [posted, hpostings, onto_setStage]
  split <;> rfl

theorem onto_brokerDone (n : Nat) (r : Reply) : (h.onto below).brokerDone n r = (h.brokerDone n r).onto below := by
  cases r with
  | done v =>
    simp only [brokerDone, onto_setStage]
    rfl
  | threw t => exact onto_posted below h n (some t)
  | promised =>
    simp only [brokerDone, onto_setStage]
    rfl

theorem onto_resume (n : Nat) (answer : Outcome) : (h.onto below).resume n answer = (h.resume n answer).onto below := by
  have hcalls : (h.onto below).calls = h.calls := rfl
  simp only [resume, hcalls]
  split
  · rfl
  · split
    · exact onto_finish below h (.settled n _)
    · exact onto_finish below h (.settled n _)
    · exact onto_publish below h _ _ _
    · exact onto_publish below h _ _ _

theorem onto_operate (op : Operation) : (h.onto below).operate op = (h.operate op).onto below := by
  cases op with
  | produce servient definition freshId => exact onto_produce below h servient definition freshId
  | register servient t => exact onto_withThing below h t fun x => onto_onServient below h _ _ _
  | enable servient id => exact onto_onServient below h _ _ _
  | disable servient id => exact onto_onServient below h _ _ _
  | removeThing servient id => exact onto_onServient below h _ _ _
  | expose t => exact onto_withThing below h t fun x => onto_onServient below h _ _ _
  | destroy t => exact onto_destroy below h t
  | add t kind name definition handler => exact onto_withThing below h t fun x => onto_announce below h t _ _
  | remove t kind name => exact onto_withThing below h t fun x => onto_announce below h t _ _
  | setHandler t kind handler name =>
    refine onto_withThing below h t fun x => ?_
    split <;> rfl
  | emit t name payload =>
    refine onto_withThing below h t fun x => ?_
    split
    · exact onto_publish below h _ _ _
    · rfl
  | call t ask => exact onto_call below h t ask
  | subscribe source client completes => exact onto_subscribe below h source client completes
  | unsubscribe s => exact onto_unsubscribe below h s
  | publish n e => exact onto_publish below h _ _ _
  | complete n => exact onto_complete below h _ _
  | relay t broker => exact onto_withThing below h t fun x => onto_attach below h _ _ _ _
  | post broker thing e => exact onto_post below h broker thing e
  | _ => rfl

theorem onto_replied (r : Reply) (f : Frame) : (h.onto below).replied r f = (h.replied r f).onto below := by
  cases f with
  | next ref d after =>
    simp only [replied, onto_bus?]
    split
    · exact onto_onBus below h ref after _
    · rfl
  | complete ref c after =>
    simp only [replied, onto_bus?]
    split
    · exact onto_onBus below h ref after _
    · rfl
  | late s => cases r <;> rfl
  | handler n =>
    cases r with
    | promised =>
      simp only [replied, onto_setProgress]
      rfl
    | _ =>
      simp only [replied, onto_answered]
      rfl
  | relaying n ref d after =>
    simp only [replied, onto_brokerDone, Step.onto, onto_bus?]
    split
    · exact congrArg (prepend _) (onto_onBus below _ ref after _)
    · rfl
  | posting n =>
    simp only [replied, onto_brokerDone]
    rfl
  | woken => rfl

end Parts
end Host
end ThingHost
