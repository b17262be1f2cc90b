import ThingHost.Proofs.Host.Desk
import ThingHost.Proofs.Host.Record

/-! A host seen from its calls. Every input makes at most one move on the desk, and the handlers that are
    called and the calls that settle in a step are those of the move; so the life of a call is the same
    whatever else is done with the host. -/

namespace ThingHost

/-! ### What stands for calls -/

def After.wait? : After → Option Wait
  | .settled n outcome => some (.ending n outcome)
  | .returned _ => none

/-- What a frame stands for. -/
def Frame.wait? : Frame → Option Wait
  | .handler n => some (.handler n)
  | .next _ _ after => after.wait?
  | .complete _ _ after => after.wait?
  | .relaying _ _ _ after => after.wait?
  | _ => none

/-- The rest of a call. -/
def Job.rest? : Job → Option (Nat × Outcome)
  | .resume n answer => some (n, answer)
  | _ => none

/-- A handler of a client is called: for which call, whose, and with what. -/
def Output.invoked? : Output → Option (Nat × Nat × List Value)
  | .callHandler client call arguments => some (call, client, arguments)
  | _ => none

def Output.settled? : Output → Option (Nat × Outcome)
  | .settled call outcome => some (call, outcome)
  | _ => none

namespace Host

def desk (h : Host) : Desk := ⟨h.calls, h.stack.filterMap Frame.wait?, h.queue.filterMap Job.rest?⟩

/-- What a call to a Thing does on the desk. -/
def callMove (x : ExposedThing) (t : Nat) (ask : Ask) : Desk.Move :=
  match x.accept ask with
  | .error e => .refuse t ask (refuse e)
  | .ok (i, .client c) => .invoke t ask i.serial c
  | .ok (i, .standard) => .perform t ask i.serial false (x.answer ask).2
  | .ok (i, .broken) => .perform t ask i.serial true (.error (.fault .notCallable))

/-- What an input does on the desk. -/
def deskMove? (h : Host) : Input → Option Desk.Move
  | .operate (.call t ask) => h.things[t]?.map fun x => callMove x t ask
  | .reply r =>
    match h.stack with
    | [] => none
    | f :: stack =>
      match f.wait? with
      | some (.handler _) => some (.reply r)
      | some (.ending ..) => if (h.step (.reply r)).1.stack.length = stack.length then some .finish else none
      | none => none
  | .answer n outcome => some (.answer n outcome)
  | .tick =>
    match h.stack, h.queue with
    | [], .resume .. :: _ => some (.resume (h.step .tick).1.stack.isEmpty)
    | _, _ => none
  | _ => none

/-- A step that makes the move `m` on the desk, calls the handlers that it calls and settles the calls that
    it settles. -/
structure Serves (h : Host) (m : Option Desk.Move) (s : Step) : Prop where
  desk : s.1.desk = match m with
    | some m => h.desk.step m
    | none => h.desk
  invoked : s.2.filterMap Output.invoked? = (m.bind h.desk.invoked).toList
  settled : s.2.filterMap Output.settled? = (m.bind h.desk.settled).toList

section Parts
variable {h h' : Host}

theorem setProgress_calls (h : Host) (n : Nat) (p : Progress) : (h.setProgress n p).calls = h.desk.setProgress n p := by
  unfold setProgress
  refine List.ext_getElem? fun k => ?_
  cases hc : h.calls[n]? with
  | none =>
    by_cases hk : n = k
    · subst hk
      simp [Desk.setProgress, desk, hc]
    · simp [Desk.setProgress, desk, hk]
  | some c =>
    obtain ⟨hlt, hget⟩ := List.getElem?_eq_some_iff.mp hc
    by_cases hk : n = k
    · subst hk
      simp [Desk.setProgress, desk, hlt, hget]
    · simp [Desk.setProgress, desk, hk]

theorem setProgress_desk (h : Host) (n : Nat) (p : Progress) :
    (h.setProgress n p).desk = ⟨h.desk.setProgress n p, h.desk.waits, h.desk.queue⟩ := by
  rw [← setProgress_calls]
  unfold setProgress
  split <;> rfl

theorem answered_desk (h : Host) (n : Nat) (answer : Outcome) :
    (h.answered n answer).desk = ⟨h.desk.setProgress n .answered, h.desk.waits, h.desk.queue ++ [(n, answer)]⟩ := by
  have := setProgress_desk h n .answered
  simp only [desk, Desk.mk.injEq] at this
  obtain ⟨hc, hw, hq⟩ := this
  simp [answered, enqueue, desk, hc, hw, hq, Job.rest?]

theorem setStage_desk (h : Host) (n : Nat) (s : Stage) : (h.setStage n s).desk = h.desk := by
  unfold setStage
  split <;> rfl

theorem setBus_desk (h : Host) (ref : BusRef) (b : Bus Listener) : (h.setBus ref b).desk = h.desk := by
  cases ref with
  | own t =>
    simp only [setBus]
    split <;> rfl
  | alone n => rfl

theorem noted_invoked (thing : Option String) (notes : List Note) : (noted thing notes).filterMap Output.invoked? = [] := by
  rw [List.filterMap_eq_nil_iff]
  intro o ho
  obtain ⟨n, -, rfl⟩ := List.mem_map.mp ho
  rfl

theorem noted_settled (thing : Option String) (notes : List Note) : (noted thing notes).filterMap Output.settled? = [] := by
  rw [List.filterMap_eq_nil_iff]
  intro o ho
  obtain ⟨n, -, rfl⟩ := List.mem_map.mp ho
  rfl

/-- Outputs that have nothing to do with calls. -/
def Mute (out : List Output) : Prop := out.filterMap Output.invoked? = [] ∧ out.filterMap Output.settled? = []

theorem noted_mute (thing : Option String) (notes : List Note) : Mute (noted thing notes) :=
  ⟨noted_invoked thing notes, noted_settled thing notes⟩

theorem Mute.append {a b : List Output} (ha : Mute a) (hb : Mute b) : Mute (a ++ b) := by
  constructor
  · rw [List.filterMap_append, ha.1, hb.1]
    rfl
  · rw [List.filterMap_append, ha.2, hb.2]
    rfl

theorem Serves.prepend {m : Option Desk.Move} {before : List Output} {s : Step} (hb : Mute before)
    (e : Serves h m s) : Serves h m (prepend before s) := by
  refine ⟨e.desk, ?_, ?_⟩
  · show (before ++ s.2).filterMap _ = _
    rw [List.filterMap_append, hb.1, e.invoked]
    rfl
  · show (before ++ s.2).filterMap _ = _
    rw [List.filterMap_append, hb.2, e.settled]
    rfl

theorem Serves.idle {out : List Output} (hd : h'.desk = h.desk) (ho : Mute out) : Serves h none (h', out) :=
  ⟨hd, ho.1, ho.2⟩

theorem Serves.returns (hd : h'.desk = h.desk) (r : Except Thrown Result) : Serves h none (h'.returns r) :=
  Serves.idle hd ⟨rfl, rfl⟩

theorem Serves.nothing (h : Host) : Serves h none (h, []) := Serves.idle rfl ⟨rfl, rfl⟩

end Parts

/-! ### Operations -/

section Steps
variable {h h' : Host}

/-- Following a turn ends the operation, or puts a frame on the stack that stands for the same as it. -/
theorem follow_desk (h : Host) (ref : BusRef) (after : After) (turn : Turn Listener) :
    h.follow ref after turn = h.finish after ∨
    ((h.follow ref after turn).1.desk = { h.desk with waits := after.wait?.toList ++ h.desk.waits } ∧
      Mute (h.follow ref after turn).2 ∧ (h.follow ref after turn).1.stack.length = h.stack.length + 1) := by
  have pushed : ∀ (k : Host) (f : Frame), k.desk = h.desk → f.wait? = after.wait? →
      (k.push f).desk = { h.desk with waits := after.wait?.toList ++ h.desk.waits } := by
    intro k f hk hf
    rw [← hk, ← hf]
    simp only [push, desk, List.filterMap_cons]
    cases f.wait? <;> rfl
  rcases turn with _ | d | c
  · exact .inl rfl
  · refine .inr ?_
    cases ho : d.current.owner with
    | client n =>
      simp only [follow, ho]
      exact ⟨pushed h _ rfl rfl, ⟨rfl, rfl⟩, rfl⟩
    | relay broker thing =>
      simp only [follow, ho]
      exact ⟨pushed (h.startPosting (.string thing) d.event).1 _ rfl rfl, ⟨rfl, rfl⟩, rfl⟩
  · cases ho : c.current.owner with
    | client n =>
      simp only [follow, ho]
      exact .inr ⟨pushed h _ rfl rfl, ⟨rfl, rfl⟩, rfl⟩
    | relay broker thing => exact .inl (by simp only [follow, ho])

theorem Serves.onBus (hd : h'.desk = h.desk) (ref : BusRef) (r : Except Thrown Result)
    (x : Bus Listener × List Note × Turn Listener) : Serves h none (h'.onBus ref (.returned r) x) := by
  refine Serves.prepend (noted_mute _ _) ?_
  have hset : (h'.setBus ref x.1).desk = h.desk := (setBus_desk h' ref x.1).trans hd
  rcases follow_desk (h'.setBus ref x.1) ref (.returned r) x.2.2 with hf | ⟨hdesk, hmute, -⟩
  · rw [hf]
    exact Serves.returns hset r
  · exact ⟨hdesk.trans hset, hmute.1, hmute.2⟩

theorem Serves.publish (hd : h'.desk = h.desk) (ref : BusRef) (e : Event) (r : Except Thrown Result) :
    Serves h none (h'.publish ref e (.returned r)) := by
  unfold Host.publish
  cases h'.bus? ref with
  | none => exact Serves.returns hd r
  | some b => exact Serves.onBus hd ref r _

theorem Serves.complete (hd : h'.desk = h.desk) (ref : BusRef) (r : Except Thrown Result) :
    Serves h none (h'.complete ref (.returned r)) := by
  unfold Host.complete
  cases h'.bus? ref with
  | none => exact Serves.returns hd r
  | some b => exact Serves.onBus hd ref r _

theorem Serves.attach (ref : BusRef) (screen : Event → Screening) (completes : Bool) (l : Listener) :
    Serves h none (h.attach ref screen completes l) := by
  unfold Host.attach
  cases h.bus? ref with
  | none => exact Serves.nothing h
  | some b =>
    have hset := setBus_desk h ref (b.attach screen completes l).1
    dsimp only
    split
    · exact Serves.idle hset ⟨rfl, rfl⟩
    · exact Serves.returns hset _

theorem Serves.withThing {t : Nat} {f : ExposedThing → Step} (he : ∀ x, h.things[t]? = some x → Serves h none (f x)) :
    Serves h none (h.withThing t f) := by
  unfold Host.withThing
  cases hx : h.things[t]? with
  | none => exact Serves.nothing h
  | some x => exact he x hx

theorem onServient_serves (h : Host) (servient : Nat) (f : Servient → Except ThingError Servient) (note : Note) :
    Serves h none (h.onServient servient f note) := by
  unfold onServient
  cases h.servients[servient]? with
  | none => exact Serves.nothing h
  | some s =>
    dsimp only
    cases f s with
    | error e => exact Serves.returns rfl _
    | ok s' => exact Serves.prepend (noted_mute _ _) (Serves.returns (by rfl) _)

theorem produce_serves (h : Host) (servient : Nat) (definition : Value) (freshId : String) :
    Serves h none (h.produce servient definition freshId) := by
  unfold produce
  cases h.servients[servient]? with
  | none => exact Serves.nothing h
  | some s =>
    dsimp only
    cases thingSchema.parse definition with
    | error issues => exact Serves.returns rfl _
    | ok parsed =>
      dsimp only
      split
      · exact Serves.returns rfl _
      · refine Serves.prepend (noted_mute _ _) ?_
        split
        · exact Serves.returns rfl _
        · split
          · exact Serves.returns rfl _
          · exact Serves.prepend (noted_mute _ _) (Serves.returns (by rfl) _)

theorem announce_serves (h : Host) (t : Nat) (note : Note) (r : Except Thrown (ExposedThing × Event)) :
    Serves h none (h.announce t note r) := by
  cases r with
  | error e => exact Serves.returns rfl _
  | ok r => exact Serves.prepend (noted_mute _ _) (Serves.publish (by rfl) _ _ _)

theorem destroy_serves (h : Host) (t : Nat) : Serves h none (h.destroy t) := by
  refine Serves.withThing fun x _ => ?_
  cases h.servients[x.servient]? with
  | none => exact Serves.nothing h
  | some s =>
    dsimp only
    cases s.remove (.string x.id) with
    | error e => exact Serves.complete rfl _ _
    | ok s' => exact Serves.prepend (noted_mute _ _) (Serves.complete (by rfl) _ _)

/-! ### Calls -/

theorem modify_last (calls : List Call) (c : Call) (p : Progress) :
    (calls ++ [c]).modify calls.length (fun c => { c with progress := p }) = calls ++ [{ c with progress := p }] := by
  refine List.ext_getElem? fun k => ?_
  rw [List.getElem?_modify]
  by_cases hk : calls.length = k
  · subst hk
    simp
  · rw [Ledger.concat_ne (Ne.symm hk), Ledger.concat_ne (Ne.symm hk)]
    simp [hk]

theorem call_serves {t : Nat} {x : ExposedThing} (hx : h.things[t]? = some x) (ask : Ask) :
    Serves h (some (callMove x t ask)) (h.call t ask) := by
  unfold call withThing callMove
  rw [hx]
  dsimp only
  cases x.accept ask with
  | error e => exact ⟨rfl, rfl, rfl⟩
  | ok r =>
    obtain ⟨i, handler⟩ := r
    refine Serves.prepend (noted_mute _ _) ?_
    cases handler with
    | client c => exact ⟨rfl, rfl, rfl⟩
    | broken =>
      refine ⟨?_, rfl, rfl⟩
      exact (answered_desk _ _ _).trans (by
        simp only [Desk.setProgress, startCall, desk, modify_last]
        rfl)
    | standard =>
      refine ⟨?_, rfl, rfl⟩
      exact (answered_desk _ _ _).trans (by
        simp only [Desk.setProgress, startCall, setThing, desk, modify_last]
        rfl)

theorem operate_serves (op : Operation) : Serves h (h.deskMove? (.operate op)) (h.operate op) := by
  cases op with
  | call t ask =>
    show Serves h (h.things[t]?.map _) (h.call t ask)
    cases hx : h.things[t]? with
    | none => simpa [call, withThing, hx] using Serves.nothing h
    | some x => exact call_serves hx ask
  | newServient => exact Serves.returns (by rfl) _
  | produce servient definition freshId => exact produce_serves h servient definition freshId
  | newThing servient id name description => exact Serves.returns (by rfl) _
  | register servient t => exact Serves.withThing fun x _ => onServient_serves h _ _ _
  | enable servient id => exact onServient_serves h _ _ _
  | disable servient id => exact onServient_serves h _ _ _
  | removeThing servient id => exact onServient_serves h _ _ _
  | expose t => exact Serves.withThing fun x _ => onServient_serves h _ _ _
  | destroy t => exact destroy_serves h t
  | add t kind name definition handler => exact Serves.withThing fun x _ => announce_serves h _ _ _
  | remove t kind name => exact Serves.withThing fun x _ => announce_serves h _ _ _
  | setHandler t kind handler name =>
    refine Serves.withThing fun x _ => ?_
    cases x.setHandler kind (.client handler) name with
    | error e => exact Serves.returns rfl _
    | ok y => exact Serves.returns (by rfl) _
  | emit t name payload =>
    refine Serves.withThing fun x _ => ?_
    cases x.emitted name payload with
    | error e => exact Serves.returns rfl _
    | ok e => exact Serves.publish rfl _ _ _
  | subscribe source client completes =>
    cases source with
    | topic t topic =>
      refine Serves.withThing fun x _ => ?_
      cases x.screen topic with
      | error e => exact Serves.returns rfl _
      | ok screen => exact Serves.attach _ _ _ _
    | bus n guard => exact Serves.attach _ _ _ _
  | unsubscribe s =>
    show Serves h none (h.unsubscribe s)
    unfold unsubscribe
    cases h.bus? s.bus with
    | none => exact Serves.nothing h
    | some b => exact Serves.returns (setBus_desk h _ _) _
  | newBus => exact Serves.returns (by rfl) _
  | publish n e => exact Serves.publish rfl _ _ _
  | complete n => exact Serves.complete rfl _ _
  | relay t broker => exact Serves.withThing fun x _ => Serves.attach _ _ _ _
  | post broker thing e =>
    show Serves h none (h.post broker thing e)
    unfold post
    split
    · exact Serves.returns rfl _
    · dsimp only
      split
      · exact Serves.idle (by rfl) ⟨rfl, rfl⟩
      · refine Serves.prepend ((noted_mute _ _).append ⟨rfl, rfl⟩) (Serves.returns ?_ _)
        exact setStage_desk _ _ _

/-! ### Inputs -/

/-- A step that settles a call when nothing more has to be delivered for it, and waits else. -/
def Ends (h : Host) (n : Nat) (outcome : Outcome) (s : Step) : Prop :=
  (s.1.stack.length = h.stack.length ∧ s.1.desk = { h.desk with calls := h.desk.setProgress n (.settled outcome) } ∧
    s.2.filterMap Output.invoked? = [] ∧ s.2.filterMap Output.settled? = [(n, outcome)]) ∨
  (s.1.stack.length = h.stack.length + 1 ∧ s.1.desk = { h.desk with waits := .ending n outcome :: h.desk.waits } ∧
    Mute s.2)

theorem settle_ends (h : Host) (n : Nat) (outcome : Outcome) : Ends h n outcome (h.settle n outcome) :=
  .inl ⟨congrArg List.length (settle_aside h n outcome).stack, setProgress_desk h n _, rfl, rfl⟩

theorem onBus_ends (h : Host) (ref : BusRef) (n : Nat) (outcome : Outcome)
    (x : Bus Listener × List Note × Turn Listener) : Ends h n outcome (h.onBus ref (.settled n outcome) x) := by
  have hset := setBus_desk h ref x.1
  have hstack := setBus_stack h ref x.1
  have hmute := noted_mute (h.busThing ref) x.2.1
  rcases follow_desk (h.setBus ref x.1) ref (.settled n outcome) x.2.2 with hf | ⟨hdesk, hm, hlen⟩
  · rcases settle_ends (h.setBus ref x.1) n outcome with ⟨hl, hd, hi, hs⟩ | ⟨hl, -⟩
    · refine .inl ⟨?_, ?_, ?_, ?_⟩
      · simp only [onBus, prepend, hf, finish, hl, hstack]
      · simp only [onBus, prepend, hf, finish, hd, hset]
      · simp only [onBus, prepend, hf, finish, List.filterMap_append, hmute.1, hi, List.append_nil]
      · simp only [onBus, prepend, hf, finish, List.filterMap_append, hmute.2, hs, List.nil_append]
    · have := congrArg List.length (settle_aside (h.setBus ref x.1) n outcome).stack
      omega
  · refine .inr ⟨?_, ?_, ?_⟩
    · simp only [onBus, prepend, hlen, hstack]
    · simp only [onBus, prepend, hdesk, hset, After.wait?, Option.toList_some, List.singleton_append]
    · exact hmute.append hm

theorem publish_ends (h : Host) (ref : BusRef) (e : Event) (n : Nat) (outcome : Outcome) :
    Ends h n outcome (h.publish ref e (.settled n outcome)) := by
  unfold publish
  cases h.bus? ref with
  | none => exact settle_ends h n outcome
  | some b => exact onBus_ends h ref n outcome _

theorem brokerDone_serves (h : Host) (n : Nat) (r : Reply) :
    (h.brokerDone n r).1.desk = h.desk ∧ Mute (h.brokerDone n r).2 := by
  cases r with
  | done v =>
    refine ⟨?_, rfl, rfl⟩
    have := setStage_desk h n .answered
    simp only [desk, Desk.mk.injEq] at this
    simp [brokerDone, enqueue, desk, this, Job.rest?]
  | promised => exact ⟨setStage_desk h n _, rfl, rfl⟩
  | threw t =>
    simp only [brokerDone, posted]
    split
    · exact ⟨rfl, rfl, rfl⟩
    · exact ⟨setStage_desk h n _, (noted_mute _ _).append ⟨rfl, rfl⟩⟩

/-- Going on on a bus after its code is done, with what the frame stood for. -/
theorem onBus_serves {f : Frame} {stack : List Frame} {after : After} {ref : BusRef} {r : Reply}
    (hs : h.stack = f :: stack) (hwait : f.wait? = after.wait?) {k : Host} (hk : k.desk = { h with stack }.desk)
    (hks : k.stack = stack) {x : Bus Listener × List Note × Turn Listener} {before : List Output} (hb : Mute before)
    (hstep : h.step (.reply r) = prepend before (k.onBus ref after x)) :
    Serves h (h.deskMove? (.reply r)) (h.step (.reply r)) := by
  have hdesk : h.desk.waits = after.wait?.toList ++ { h with stack }.desk.waits := by
    simp only [desk, hs, List.filterMap_cons, hwait]
    cases after.wait? <;> rfl
  cases after with
  | returned res =>
    have hmove : h.deskMove? (.reply r) = none := by simp [deskMove?, hs, hwait, After.wait?]
    rw [hmove, hstep]
    have hd : k.desk = h.desk := by
      rw [hk]
      simp only [desk, Desk.mk.injEq, true_and, and_true] at hdesk ⊢
      exact hdesk.symm
    exact (Serves.onBus hd ref res x).prepend hb
  | settled n outcome =>
    have hmove : h.deskMove? (.reply r) = if (h.step (.reply r)).1.stack.length = stack.length then some .finish else none := by
      simp [deskMove?, hs, hwait, After.wait?]
    rw [hmove, hstep]
    have hwaits : h.desk.waits = .ending n outcome :: { h with stack }.desk.waits := hdesk
    rcases onBus_ends k ref n outcome x with ⟨hl, hd, hi, hset⟩ | ⟨hl, hd, hm⟩
    · have hlen : (prepend before (k.onBus ref (.settled n outcome) x)).1.stack.length = stack.length := hl.trans (by rw [hks])
      rw [if_pos hlen]
      refine ⟨?_, ?_, ?_⟩
      · show (k.onBus ref (.settled n outcome) x).1.desk = _
        rw [hd, hk]
        simp only [Desk.step, hwaits]
        rfl
      · show (before ++ _).filterMap _ = _
        rw [List.filterMap_append, hb.1, hi]
        rfl
      · show (before ++ _).filterMap _ = _
        rw [List.filterMap_append, hb.2, hset]
        simp [Desk.settled, hwaits]
    · have hlen : ¬(prepend before (k.onBus ref (.settled n outcome) x)).1.stack.length = stack.length := by
        show ¬(k.onBus ref (.settled n outcome) x).1.stack.length = stack.length
        rw [hl, hks]
        omega
      rw [if_neg hlen]
      refine Serves.prepend hb ⟨?_, hm.1, hm.2⟩
      rw [hd, hk]
      simp only [desk] at hwaits ⊢
      rw [hwaits]

theorem handler_serves {n : Nat} {stack : List Frame} (hs : h.stack = .handler n :: stack) (r : Reply) :
    Serves h (h.deskMove? (.reply r)) (h.step (.reply r)) := by
  have hstep : h.step (.reply r) = { h with stack }.replied r (.handler n) := by simp [step, hs]
  have hmove : h.deskMove? (.reply r) = some (.reply r) := by simp [deskMove?, hs, Frame.wait?]
  have hwaits : h.desk.waits = .handler n :: { h with stack }.desk.waits := by simp [desk, hs, Frame.wait?]
  rw [hmove, hstep]
  cases r with
  | done v =>
    refine ⟨(answered_desk _ n _).trans ?_, rfl, rfl⟩
    simp only [Desk.step, hwaits]
    rfl
  | threw t =>
    refine ⟨(answered_desk _ n _).trans ?_, rfl, rfl⟩
    simp only [Desk.step, hwaits]
    rfl
  | promised =>
    refine ⟨(setProgress_desk _ n _).trans ?_, rfl, rfl⟩
    simp only [Desk.step, hwaits]
    rfl

theorem reply_serves (g : Grounded h) (r : Reply) : Serves h (h.deskMove? (.reply r)) (h.step (.reply r)) := by
  cases hs : h.stack with
  | nil => simpa [deskMove?, step, hs] using Serves.nothing h
  | cons f stack =>
    have hstep : h.step (.reply r) = { h with stack }.replied r f := by simp [step, hs]
    have hthere : ∀ ref, f.on? ref ≠ none → ∃ b, { h with stack }.bus? ref = some b := fun ref hon =>
      Option.isSome_iff_exists.mp (g.there f (by simp [hs]) ref hon)
    -- A frame that stands for no call takes nothing off the desk.
    have plain : f.wait? = none → h.deskMove? (.reply r) = none ∧ { h with stack }.desk = h.desk := by
      intro hw
      refine ⟨by simp [deskMove?, hs, hw], ?_⟩
      simp [desk, hs, hw]
    cases f with
    | next ref d after =>
      obtain ⟨b, hb⟩ := hthere ref (by simp [Frame.on?])
      exact onBus_serves hs rfl rfl rfl (show Mute [] from ⟨rfl, rfl⟩) (by simp only [hstep, replied, hb]; rfl)
    | complete ref c after =>
      obtain ⟨b, hb⟩ := hthere ref (by simp [Frame.on?])
      exact onBus_serves hs rfl rfl rfl (show Mute [] from ⟨rfl, rfl⟩) (by simp only [hstep, replied, hb]; rfl)
    | relaying n ref d after =>
      obtain ⟨b, hb⟩ := hthere ref (by simp [Frame.on?])
      have a := brokerDone_aside { h with stack } n r
      obtain ⟨hd, hm⟩ := brokerDone_serves { h with stack } n r
      have hb' : ({ h with stack }.brokerDone n r).1.bus? ref = some b := (a.bus? ref).trans hb
      have hstep' : h.step (.reply r) = prepend ({ h with stack }.brokerDone n r).2
          (({ h with stack }.brokerDone n r).1.onBus ref after (b.afterNext d none)) := by
        simp only [hstep, replied, hb']
      exact onBus_serves hs rfl hd a.stack hm hstep'
    | late s =>
      obtain ⟨hmove, hd⟩ := plain rfl
      rw [hmove, hstep]
      cases r <;> exact Serves.returns hd _
    | posting n =>
      obtain ⟨hmove, hd⟩ := plain rfl
      obtain ⟨hd', hm⟩ := brokerDone_serves { h with stack } n r
      rw [hmove, hstep]
      exact Serves.prepend hm (Serves.returns (hd'.trans hd) _)
    | woken =>
      obtain ⟨hmove, hd⟩ := plain rfl
      rw [hmove, hstep]
      exact Serves.idle hd ⟨rfl, rfl⟩
    | handler n => exact handler_serves hs r

theorem posted_serves (hd : h'.desk = h.desk) (n : Nat) (failure : Option Thrown) :
    Serves h none (h'.posted n failure) := by
  unfold posted
  cases h'.postings[n]? with
  | none => exact Serves.idle hd ⟨rfl, rfl⟩
  | some p => exact Serves.idle ((setStage_desk h' n _).trans hd) ((noted_mute _ _).append ⟨rfl, rfl⟩)

/-- The rest of a call settles it, or puts its announcement first. -/
theorem resume_ends (h : Host) (n : Nat) (answer : Outcome) {c : Call} (hc : h.calls[n]? = some c) :
    Ends h n (settlement c.ask answer) (h.resume n answer) := by
  unfold resume
  rw [hc]
  obtain ⟨thing, ask, accepted, progress⟩ := c
  cases answer with
  | error t => cases ask <;> exact settle_ends h n _
  | ok v =>
    cases ask with
    | read property => exact settle_ends h n _
    | write property value => exact publish_ends h _ _ n _
    | invoke action arguments => exact publish_ends h _ _ n _

theorem resume_serves {n : Nat} {answer : Outcome} {queue : List Job} (hs : h.stack = [])
    (hq : h.queue = .resume n answer :: queue) : Serves h (h.deskMove? .tick) (h.step .tick) := by
  have hstep : h.step .tick = { h with queue }.resume n answer := by simp [step, work, hs, hq]
  have hmove : h.deskMove? .tick = some (.resume (h.step .tick).1.stack.isEmpty) := by simp [deskMove?, hs, hq]
  have hqueue : h.desk.queue = (n, answer) :: { h with queue }.desk.queue := by simp [desk, hq, Job.rest?]
  have hcalls : h.desk.calls[n]? = h.calls[n]? := rfl
  rw [hmove, hstep]
  cases hc : h.calls[n]? with
  | none =>
    have hres : { h with queue }.resume n answer = ({ h with queue }, []) := by simp [resume, hc]
    rw [hres]
    refine ⟨?_, rfl, ?_⟩
    · simp only [Desk.step, hqueue, hcalls, hc]
      rfl
    · simp [Desk.settled, hqueue, hcalls, hc, hs]
  | some c =>
    rcases resume_ends { h with queue } n answer hc with ⟨hl, hd, hi, hset⟩ | ⟨hl, hd, hm⟩
    · have hempty : ({ h with queue }.resume n answer).1.stack.isEmpty = true := by
        rw [List.isEmpty_iff, ← List.length_eq_zero_iff, hl]
        simp [hs]
      rw [hempty]
      refine ⟨?_, hi, ?_⟩
      · rw [hd]
        simp only [Desk.step, hqueue, hcalls, hc]
        rfl
      · rw [hset]
        simp [Desk.settled, hqueue, hcalls, hc]
    · have hempty : ({ h with queue }.resume n answer).1.stack.isEmpty = false := by
        rw [List.isEmpty_eq_false_iff, ← List.length_pos_iff_ne_nil]
        omega
      rw [hempty]
      refine ⟨?_, hm.1, hm.2⟩
      rw [hd]
      simp only [Desk.step, hqueue, hcalls, hc]
      rfl

theorem tick_serves : Serves h (h.deskMove? .tick) (h.step .tick) := by
  cases hs : h.stack with
  | cons f stack => simpa [deskMove?, step, hs] using Serves.nothing h
  | nil =>
    cases hq : h.queue with
    | nil => simpa [deskMove?, step, work, hs, hq] using Serves.nothing h
    | cons job queue =>
      cases job with
      | resume n answer => exact resume_serves hs hq
      | posted n failure =>
        have hd : { h with queue }.desk = h.desk := by simp [desk, hq, Job.rest?, List.filterMap_cons]
        simpa [deskMove?, step, work, hs, hq] using posted_serves hd n failure
      | wake token =>
        have hd : ({ h with queue }.push .woken).desk = h.desk := by
          simp [desk, push, hq, Job.rest?, Frame.wait?, List.filterMap_cons]
        simpa [deskMove?, step, work, hs, hq] using Serves.idle hd (show Mute [.wake token] from ⟨rfl, rfl⟩)

/-- An input makes the move on the desk that it stands for, and nothing else happens to any call. -/
theorem step_serves (g : Grounded h) (i : Input) : Serves h (h.deskMove? i) (h.step i) := by
  cases i with
  | operate op => exact operate_serves op
  | reply r => exact reply_serves g r
  | answer n outcome =>
    show Serves h (some (.answer n outcome)) (h.step (.answer n outcome))
    rcases hc : h.calls[n]? with _ | ⟨thing, ask, accepted, progress⟩
    · simp only [step, hc]
      exact ⟨by simp [Desk.step, desk, hc], rfl, rfl⟩
    · cases progress with
      | waiting =>
        simp only [step, hc]
        refine ⟨(answered_desk h n outcome).trans ?_, rfl, rfl⟩
        simp [Desk.step, desk, hc]
      | _ =>
        simp only [step, hc]
        exact ⟨by simp [Desk.step, desk, hc], rfl, rfl⟩
  | acknowledge n failure =>
    simp only [step]
    split
    · refine Serves.idle ?_ ⟨rfl, rfl⟩
      have := setStage_desk h n .answered
      simp only [desk, Desk.mk.injEq] at this
      simp [enqueue, desk, this, Job.rest?]
    · exact Serves.nothing h
  | defer token => exact Serves.idle (by simp [enqueue, desk, Job.rest?]) ⟨rfl, rfl⟩
  | tick => exact tick_serves
  | setClock ms => exact Serves.idle (by rfl) ⟨rfl, rfl⟩

end Steps

end Host
end ThingHost
