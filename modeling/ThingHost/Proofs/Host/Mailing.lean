import ThingHost.Proofs.Bus.Screening
import ThingHost.Proofs.Host.Outbox
import ThingHost.Proofs.Host.Past

/-! A host seen from its postings. Every input makes at most one move on the outbox, and after it at most one
    message is handed to a broker: the last thing that the step does. Who threw at an event, and
    how it was relayed, the step writes in the receipt that the move notes, and in what the bus notes that the
    input moves on. -/

namespace ThingHost

/-- The posting whose broker's code a frame runs. -/
def Frame.posting? : Frame → Option Nat
  | .relaying n .. => some n
  | .posting n => some n
  | _ => none

/-- An answer that waits to be noted. -/
def Job.posted? : Job → Option (Nat × Option Thrown)
  | .posted n failure => some (n, failure)
  | _ => none

def Output.answered? : Output → Option Nat
  | .answered n => some n
  | _ => none

/-- The note says that somebody threw at an event, or how it was relayed. -/
def Note.reports : Note → Bool
  | .observerThrew .. => true
  | note => note.relays

/-- The lines of a kind. -/
def Output.logged? (kind : LogLine → Bool) : Output → Option LogLine
  | .log line => if kind line then some line else none
  | _ => none

def Output.reports? : Output → Option LogLine := Output.logged? fun line => line.note.reports

def Output.isMessage : Output → Bool
  | .callBroker .. => true
  | _ => false

/-- An output that has nothing to do with postings. -/
def Output.plain : Output → Bool
  | .log line => !line.note.reports
  | .answered _ => false
  | .callBroker .. => false
  | _ => true

/-- The frame in which a broker is handed the posting `n` for an event of a Thing. -/
inductive Frame.Mails (n broker : Nat) : Frame → Value → Event → Prop where
  | relaying {ref : BusRef} {d : Delivery Listener} {after : After} {thing : String}
      (owner : d.current.owner = .relay broker thing) : Mails n broker (.relaying n ref d after) (.string thing) d.event
  | posting {thing : Value} {e : Event} : Mails n broker (.posting n) thing e

namespace Host

def outbox (h : Host) : Outbox := ⟨h.postings, h.stack.filterMap Frame.posting?, h.queue.filterMap Job.posted?⟩

/-- What an input does with the outbox, before it hands over a message. -/
def mail? (h : Host) : Input → Option Outbox.Move
  | .operate (.post _ thing e) =>
    if Instant.isValid h.clock && !Relay.writable e then some (.refuse thing e.name) else none
  | .reply r =>
    match h.stack with
    | f :: _ => f.posting?.map fun _ => .reply r
    | [] => none
  | .acknowledge n failure => some (.acknowledge n failure)
  | .tick =>
    match h.stack, h.queue with
    | [], .posted .. :: _ => some .note
    | _, _ => none
  | _ => none

/-- What a bus reports in a step, as it is logged. -/
def busLines (h : Host) (m : Option (BusRef × Bus.Move Listener)) : List LogLine :=
  match m with
  | some (ref, m) => (((h.view ref).noted m).filter Note.reports).map fun note => ⟨h.busThing ref, note⟩
  | none => []

/-- From an outbox no message is handed over; or one is, and that is the last thing the step does. -/
inductive Starts (k : Outbox) (clock : Int) (s : Step) : Prop where
  | quiet (outbox : s.1.outbox = k) (none : ∀ o ∈ s.2, o.isMessage = false)
  | started {f : Frame} {below : List Frame} {thing : Value} {e : Event} {broker : Nat}
      (before : List Output) (mails : f.Mails k.postings.length broker thing e) (stack : s.1.stack = f :: below)
      (outbox : s.1.outbox = k.step (.start thing e.name))
      (out : s.2 = before ++ [.callBroker broker k.postings.length "thing_events" (Json.write (Relay.message thing e clock))])
      (none : ∀ o ∈ before, o.isMessage = false)

/-- A step that makes the move `m` on the outbox, notes what it notes, and writes the lines of a bus. -/
structure Mails (h : Host) (m : Option Outbox.Move) (lines : List LogLine) (s : Step) : Prop where
  starts : Starts (h.outbox.after m) h.clock s
  answered : s.2.filterMap Output.answered? = ((m.bind h.outbox.noted).map (·.1)).toList
  lines : s.2.filterMap Output.reports? = ((m.bind h.outbox.noted).map (·.2)).toList ++ lines

/-! ### Parts of a step -/

section Parts
variable {h h' : Host}

theorem setStage_postings (h : Host) (n : Nat) (s : Stage) : (h.setStage n s).postings = h.outbox.setStage n s := by
  unfold setStage
  refine List.ext_getElem? fun k => ?_
  cases hp : h.postings[n]? with
  | none =>
    by_cases hk : n = k
    · subst hk
      simp [Outbox.setStage, outbox, hp]
    · simp [Outbox.setStage, outbox, hk]
  | some p =>
    obtain ⟨hlt, hget⟩ := List.getElem?_eq_some_iff.mp hp
    by_cases hk : n = k
    · subst hk
      simp [Outbox.setStage, outbox, hlt, hget]
    · simp [Outbox.setStage, outbox, hk]

theorem setStage_outbox (h : Host) (n : Nat) (s : Stage) :
    (h.setStage n s).outbox = ⟨h.outbox.setStage n s, h.outbox.taking, h.outbox.queue⟩ := by
  rw [← setStage_postings]
  unfold setStage
  split <;> rfl

theorem setProgress_outbox (h : Host) (n : Nat) (p : Progress) : (h.setProgress n p).outbox = h.outbox := by
  unfold setProgress
  split <;> rfl

theorem answered_outbox (h : Host) (n : Nat) (answer : Outcome) : (h.answered n answer).outbox = h.outbox := by
  have := setProgress_outbox h n .answered
  simp only [outbox, Outbox.mk.injEq] at this
  simp [answered, enqueue, outbox, this, Job.posted?]

theorem setBus_outbox (h : Host) (ref : BusRef) (b : Bus Listener) : (h.setBus ref b).outbox = h.outbox := by
  cases ref with
  | own t =>
    simp only [setBus]
    split <;> rfl
  | alone n => rfl

theorem setBus_clock (h : Host) (ref : BusRef) (b : Bus Listener) : (h.setBus ref b).clock = h.clock := by
  cases ref with
  | own t =>
    simp only [setBus]
    split <;> rfl
  | alone n => rfl

theorem of_plain {out : List Output} (hp : ∀ o ∈ out, o.plain = true) : out.filterMap Output.answered? = [] ∧
    out.filterMap Output.reports? = [] ∧ ∀ o ∈ out, o.isMessage = false := by
  have parts : ∀ o ∈ out, o.answered? = none ∧ o.reports? = none ∧ o.isMessage = false := by
    intro o ho
    have hplain := hp o ho
    cases o with
    | log line => exact ⟨rfl, if_neg (by simpa [Output.plain] using hplain), rfl⟩
    | answered n => cases hplain
    | callBroker broker n channel text => cases hplain
    | _ => exact ⟨rfl, rfl, rfl⟩
  exact ⟨List.filterMap_eq_nil_iff.mpr fun o ho => (parts o ho).1,
    List.filterMap_eq_nil_iff.mpr fun o ho => (parts o ho).2.1, fun o ho => (parts o ho).2.2⟩

theorem noted_answered (thing : Option String) (notes : List Note) : (noted thing notes).filterMap Output.answered? = [] := by
  rw [List.filterMap_eq_nil_iff]
  intro o ho
  obtain ⟨n, -, rfl⟩ := List.mem_map.mp ho
  rfl

theorem noted_messages (thing : Option String) (notes : List Note) : ∀ o ∈ noted thing notes, o.isMessage = false := by
  intro o ho
  obtain ⟨n, -, rfl⟩ := List.mem_map.mp ho
  rfl

theorem noted_logged (kind : LogLine → Bool) (thing : Option String) (notes : List Note) :
    (noted thing notes).filterMap (Output.logged? kind) =
      (notes.filter fun note => kind ⟨thing, note⟩).map fun note => ⟨thing, note⟩ := by
  induction notes with
  | nil => rfl
  | cons note notes ih =>
    have hcons : noted thing (note :: notes) = .log ⟨thing, note⟩ :: noted thing notes := rfl
    rw [hcons, List.filter_cons]
    cases hn : kind ⟨thing, note⟩ <;> simp [Output.logged?, hn, ih]

theorem noted_reports (thing : Option String) (notes : List Note) :
    (noted thing notes).filterMap Output.reports? = (notes.filter Note.reports).map fun note => ⟨thing, note⟩ :=
  noted_logged _ thing notes

theorem noted_plain {thing : Option String} {notes : List Note} (hn : ∀ n ∈ notes, n.reports = false) :
    ∀ o ∈ noted thing notes, o.plain = true := by
  intro o ho
  obtain ⟨n, hmem, rfl⟩ := List.mem_map.mp ho
  simp [Output.plain, hn n hmem]

theorem Starts.prepend {k : Outbox} {clock : Int} {before : List Output} {s : Step}
    (hb : ∀ o ∈ before, o.isMessage = false) (e : Starts k clock s) : Starts k clock (prepend before s) := by
  have both : ∀ out : List Output, (∀ o ∈ out, o.isMessage = false) → ∀ o ∈ before ++ out, o.isMessage = false := by
    intro out hout o ho
    rcases List.mem_append.mp ho with ho | ho
    · exact hb o ho
    · exact hout o ho
  rcases e with ⟨hbox, hnone⟩ | ⟨out, hmails, hstack, hbox, hout, hnone⟩
  · exact .quiet hbox (both _ hnone)
  · refine .started (before ++ out) hmails hstack hbox ?_ (both out hnone)
    show before ++ s.2 = _
    rw [hout, List.append_assoc]

/-- Outputs that have nothing to do with postings may come first. -/
theorem Mails.prepend {m : Option Outbox.Move} {lines : List LogLine} {before : List Output} {s : Step}
    (hb : ∀ o ∈ before, o.plain = true) (e : Mails h m lines s) : Mails h m lines (prepend before s) := by
  obtain ⟨hans, hrel, hmsg⟩ := of_plain hb
  refine ⟨e.starts.prepend hmsg, ?_, ?_⟩
  · show (before ++ s.2).filterMap _ = _
    rw [List.filterMap_append, hans, e.answered]
    rfl
  · show (before ++ s.2).filterMap _ = _
    rw [List.filterMap_append, hrel, e.lines]
    rfl

theorem Mails.plain {out : List Output} (hbox : h'.outbox = h.outbox) (hp : ∀ o ∈ out, o.plain = true) :
    Mails h none [] (h', out) := by
  obtain ⟨hans, hrel, hmsg⟩ := of_plain hp
  exact ⟨.quiet hbox hmsg, hans, hrel⟩

theorem Mails.returns (hbox : h'.outbox = h.outbox) (r : Except Thrown Result) : Mails h none [] (h'.returns r) :=
  Mails.plain hbox (by simp [Output.plain])

theorem Mails.nothing (h : Host) : Mails h none [] (h, []) := Mails.plain rfl (by simp)

theorem finish_mails (hbox : h'.outbox = h.outbox) (after : After) : Mails h none [] (h'.finish after) := by
  cases after with
  | returned r => exact Mails.returns hbox r
  | settled call outcome =>
    exact Mails.plain ((setProgress_outbox h' call _).trans hbox)
      (by simp [Output.plain])

/-- Only an event handed to a relay makes a posting. -/
theorem follow_mails (hbox : h'.outbox = h.outbox) (hclock : h'.clock = h.clock) (ref : BusRef) (after : After)
    (turn : Turn Listener) : Mails h none [] (h'.follow ref after turn) := by
  have pushed : ∀ (f : Frame) (o : Output), f.posting? = none → o.plain = true → Mails h none [] (h'.push f, [o]) := by
    intro f o hf ho
    refine Mails.plain ?_ (by simpa using ho)
    rw [← hbox]
    simp [push, outbox, hf]
  rcases turn with _ | d | c
  · exact finish_mails hbox after
  · cases howner : d.current.owner with
    | client n =>
      simp only [follow, howner]
      exact pushed _ _ rfl rfl
    | relay broker thing =>
      have hlen : h'.postings.length = h.outbox.postings.length := by rw [← hbox]; rfl
      simp only [follow, howner, startPosting]
      have hmails : Frame.Mails h.outbox.postings.length broker (.relaying h'.postings.length ref d after)
          (.string thing) d.event := by
        rw [hlen]
        exact .relaying howner
      refine ⟨.started [] hmails rfl ?_ ?_ (by simp), rfl, rfl⟩
      · rw [Outbox.after, ← hbox]
        rfl
      · rw [Outbox.after, ← hlen, ← hclock]
        rfl
  · cases howner : c.current.owner with
    | client n =>
      simp only [follow, howner]
      exact pushed _ _ rfl rfl
    | relay broker thing =>
      simp only [follow, howner]
      exact finish_mails hbox after

/-- An operation on a bus writes what the bus notes. -/
theorem onBus_mails (hbox : h'.outbox = h.outbox) (hclock : h'.clock = h.clock) (ref : BusRef) (after : After)
    (r : Bus Listener × List Note × Turn Listener) :
    Mails h none ((r.2.1.filter Note.reports).map fun note => ⟨h'.busThing ref, note⟩) (h'.onBus ref after r) := by
  have e := follow_mails ((setBus_outbox h' ref r.1).trans hbox) ((setBus_clock h' ref r.1).trans hclock) ref after r.2.2
  refine ⟨e.starts.prepend (noted_messages _ _), ?_, ?_⟩
  · show (noted _ r.2.1 ++ _).filterMap _ = _
    rw [List.filterMap_append, noted_answered, e.answered]
    rfl
  · show (noted _ r.2.1 ++ _).filterMap _ = _
    rw [List.filterMap_append, noted_reports, e.lines]
    exact List.append_nil _

end Parts

/-! ### Operations -/

section Operations
variable {h h' : Host}

theorem publish_mails (hbox : h'.outbox = h.outbox) (hclock : h'.clock = h.clock) {ref : BusRef}
    (hbus : h'.bus? ref = h.bus? ref) (hthing : h'.busThing ref = h.busThing ref) (hthere : (h.bus? ref).isSome)
    (e : Event) (after : After) : Mails h none (h.busLines (some (ref, .publish e))) (h'.publish ref e after) := by
  obtain ⟨b, hb⟩ := Option.isSome_iff_exists.mp hthere
  have hnoted : (h.view ref).noted (.publish e) = (b.publish e).2.1 := by
    simp only [Bus.Live.noted, view, bus_of_bus? hb]
  simp only [Host.publish, hbus, hb, busLines, hnoted, ← hthing]
  exact onBus_mails hbox hclock ref after _

theorem complete_mails (hbox : h'.outbox = h.outbox) (hclock : h'.clock = h.clock) {ref : BusRef}
    (hbus : h'.bus? ref = h.bus? ref) (hthing : h'.busThing ref = h.busThing ref) (hthere : (h.bus? ref).isSome)
    (after : After) : Mails h none (h.busLines (some (ref, .complete))) (h'.complete ref after) := by
  obtain ⟨b, hb⟩ := Option.isSome_iff_exists.mp hthere
  have hnoted : (h.view ref).noted .complete = b.complete.2.1 := by
    simp only [Bus.Live.noted, view, bus_of_bus? hb]
  simp only [Host.complete, hbus, hb, busLines, hnoted, ← hthing]
  exact onBus_mails hbox hclock ref after _

theorem attach_mails {ref : BusRef} (screen : Event → Screening) (completes : Bool) (l : Listener) :
    Mails h none [] (h.attach ref screen completes l) := by
  unfold Host.attach
  cases h.bus? ref with
  | none => exact Mails.nothing h
  | some b =>
    have hset := setBus_outbox h ref (b.attach screen completes l).1
    dsimp only
    split
    · refine Mails.plain ?_ (by simp [Output.plain])
      rw [← hset]
      rfl
    · exact Mails.returns hset _

theorem withThing_mails {t : Nat} {f : ExposedThing → Step} {m : ExposedThing → Option (BusRef × Bus.Move Listener)}
    (he : ∀ x, h.things[t]? = some x → Mails h none (h.busLines (m x)) (f x)) :
    Mails h none (h.busLines (h.things[t]?.bind m)) (h.withThing t f) := by
  unfold withThing
  cases hx : h.things[t]? with
  | none => exact Mails.nothing h
  | some x => exact he x hx

theorem withThing_silent {t : Nat} {f : ExposedThing → Step}
    (he : ∀ x, h.things[t]? = some x → Mails h none [] (f x)) : Mails h none [] (h.withThing t f) := by
  unfold withThing
  cases hx : h.things[t]? with
  | none => exact Mails.nothing h
  | some x => exact he x hx

theorem onServient_mails (servient : Nat) (f : Servient → Except ThingError Servient) {note : Note}
    (hn : note.reports = false) : Mails h none [] (h.onServient servient f note) := by
  unfold onServient
  cases h.servients[servient]? with
  | none => exact Mails.nothing h
  | some s =>
    dsimp only
    cases f s with
    | error e => exact Mails.returns rfl _
    | ok s' => exact Mails.prepend (noted_plain (by simpa using hn)) (Mails.returns (by rfl) _)

/-- Nobody listens to a Thing that is being made. -/
theorem declareAll_silent {x : ExposedThing} (hx : x.bus = .new) (l : List (InteractionKind × String × Value)) :
    ∀ note ∈ (declareAll x l).2, note.reports = false := by
  induction l generalizing x with
  | nil => exact fun note hnote => absurd hnote List.not_mem_nil
  | cons d rest ih =>
    obtain ⟨kind, name, definition⟩ := d
    rcases ha : x.add kind (.string name) definition none with t | ⟨y, e⟩
    · simp [declareAll, ha]
    · have hy : y.bus = .new := (ExposedThing.add_bus ha).trans hx
      have hpub : y.bus.publish e = (.new, [.eventPublished e.name 0], .over) := by
        rw [hy]
        rfl
      have hrest := ih (x := { y with bus := .new }) rfl
      intro note hnote
      simp only [declareAll, ha, hpub] at hnote
      rcases List.mem_cons.mp hnote with rfl | hnote
      · rfl
      · rcases List.mem_cons.mp hnote with rfl | hnote
        · rfl
        · exact hrest note hnote

theorem produce_mails (servient : Nat) (definition : Value) (freshId : String) :
    Mails h none [] (h.produce servient definition freshId) := by
  unfold produce
  cases h.servients[servient]? with
  | none => exact Mails.nothing h
  | some s =>
    dsimp only
    cases thingSchema.parse definition with
    | error issues => exact Mails.returns rfl _
    | ok parsed =>
      dsimp only
      split
      · exact Mails.returns rfl _
      · refine Mails.prepend (noted_plain (declareAll_silent rfl _)) ?_
        split
        · exact Mails.returns rfl _
        · split
          · exact Mails.returns rfl _
          · exact Mails.prepend (noted_plain (by simp [Note.reports, Note.relays])) (Mails.returns (by rfl) _)

theorem announce_mails {t : Nat} {x : ExposedThing} (hx : h.things[t]? = some x) {note : Note}
    (hn : note.reports = false) {r : Except Thrown (ExposedThing × Event)}
    (hr : ∀ y e, r = .ok (y, e) → y.bus = x.bus ∧ y.id = x.id) :
    Mails h none (h.busLines (announcing t r)) (h.announce t note r) := by
  cases r with
  | error e => exact Mails.returns rfl _
  | ok r =>
    obtain ⟨y, e⟩ := r
    obtain ⟨hbus, hid⟩ := hr y e rfl
    have a := setThing_aside hx hbus
    have hset : (h.setThing t y).things[t]? = some y := by
      simp [setThing, (List.getElem?_eq_some_iff.mp hx).1]
    have hthing : (h.setThing t y).busThing (.own t) = h.busThing (.own t) := by
      simp only [busThing, hset, hx, Option.map_some, hid]
    exact (publish_mails (h := h) (by rfl) (by rfl) (a.bus? _) hthing (own_there hx) e _).prepend (noted_plain (by simpa using hn))

theorem destroy_mails (t : Nat) : Mails h none (h.busLines (h.asks? (.destroy t))) (h.destroy t) := by
  refine withThing_mails fun x hx => ?_
  cases h.servients[x.servient]? with
  | none => exact Mails.nothing h
  | some s =>
    dsimp only [Option.bind_some]
    cases s.remove (.string x.id) with
    | error e => exact complete_mails rfl rfl rfl rfl (own_there hx) _
    | ok s' =>
      have a := setServient_aside h x.servient s'
      exact (complete_mails (h := h) (by rfl) (by rfl) (a.bus? _) rfl (own_there hx) _).prepend
        (noted_plain (by simp [Note.reports, Note.relays]))

theorem call_mails (t : Nat) (ask : Ask) : Mails h none [] (h.call t ask) := by
  refine withThing_silent fun x hx => ?_
  cases x.accept ask with
  | error e =>
    exact Mails.prepend (by simp [Output.plain])
      (Mails.returns (by rfl) _)
  | ok r =>
    obtain ⟨i, handler⟩ := r
    refine Mails.prepend (noted_plain (by cases ask <;> simp [callNote, Note.reports, Note.relays])) ?_
    cases handler with
    | client c => exact Mails.plain rfl (by simp [Output.plain])
    | broken =>
      refine Mails.returns ?_ _
      rw [answered_outbox]
      rfl
    | standard =>
      refine Mails.returns ?_ _
      rw [answered_outbox]
      rfl

theorem modify_concat {α : Type} (l : List α) (x : α) (f : α → α) :
    (l ++ [x]).modify l.length f = l ++ [f x] := by
  induction l with
  | nil => rfl
  | cons y l ih => simpa using ih

theorem post_mails (broker : Nat) (thing : Value) (e : Event) :
    Mails h (h.mail? (.operate (.post broker thing e))) [] (h.post broker thing e) := by
  cases hv : Instant.isValid h.clock with
  | false =>
    simp only [post, mail?, hv, Bool.not_false, Bool.false_and, Bool.false_eq_true, ↓reduceIte]
    exact Mails.returns rfl _
  | true =>
    cases hw : Relay.writable e with
    | true =>
      simp only [post, mail?, hv, hw, Bool.not_true, Bool.and_false, Bool.false_eq_true, ↓reduceIte]
      exact ⟨.started [] .posting rfl rfl rfl (by simp), rfl, rfl⟩
    | false =>
      simp only [post, mail?, hv, hw, Bool.not_true, Bool.not_false, Bool.and_self, Bool.false_eq_true, ↓reduceIte]
      refine ⟨.quiet ?_ ?_, rfl, rfl⟩
      · refine (setStage_outbox _ _ _).trans ?_
        simp [Outbox.after, Outbox.step, Outbox.setStage, outbox, startPosting, modify_concat]
      · simp [Host.prepend, Host.returns, noted, Output.isMessage]

theorem operate_mails (op : Operation) :
    Mails h (h.mail? (.operate op)) (h.busLines (h.asks? op)) (h.operate op) := by
  cases op with
  | newServient => exact Mails.returns (by rfl) _
  | produce servient definition freshId => exact produce_mails servient definition freshId
  | newThing servient id name description => exact Mails.returns (by rfl) _
  | register servient t => exact withThing_silent fun x _ => onServient_mails _ _ rfl
  | enable servient id => exact onServient_mails _ _ rfl
  | disable servient id => exact onServient_mails _ _ rfl
  | removeThing servient id => exact onServient_mails _ _ rfl
  | expose t => exact withThing_silent fun x _ => onServient_mails _ _ rfl
  | destroy t => exact destroy_mails t
  | add t kind name definition handler =>
    refine withThing_mails fun x hx => announce_mails hx rfl fun y e hr => ⟨ExposedThing.add_bus hr, ?_⟩
    obtain ⟨s, parsed, -, -, -, -, rfl, -⟩ := ExposedThing.add_eq_ok.mp hr
    rfl
  | remove t kind name =>
    refine withThing_mails fun x hx => announce_mails hx rfl fun y e hr => ?_
    have hr := ExposedThing.mapError_eq_ok.mp hr
    refine ⟨ExposedThing.remove_bus hr, ?_⟩
    obtain ⟨i, -, rfl, -⟩ := ExposedThing.remove_eq_ok.mp hr
    rfl
  | setHandler t kind handler name =>
    refine withThing_silent fun x hx => ?_
    cases x.setHandler kind (.client handler) name with
    | error e => exact Mails.returns rfl _
    | ok y => exact Mails.returns (by rfl) _
  | emit t name payload =>
    refine withThing_mails fun x hx => ?_
    cases x.emitted name payload with
    | error e => exact Mails.returns rfl _
    | ok e => exact publish_mails rfl rfl rfl rfl (own_there hx) e _
  | call t ask => exact call_mails t ask
  | subscribe source client completes =>
    cases source with
    | topic t topic =>
      refine withThing_mails fun x hx => ?_
      cases x.screen topic with
      | error e => exact Mails.returns rfl _
      | ok screen => exact attach_mails _ _ _
    | bus n guard =>
      cases hb : h.bus? (.alone n) with
      | none => simpa [asks?, hb, busLines, operate, subscribe, attach, mail?] using Mails.nothing h
      | some b =>
        simpa [asks?, hb, busLines, Bus.Live.noted, operate, subscribe, mail?] using attach_mails (h := h) _ _ _
  | unsubscribe s =>
    cases hb : h.bus? s.bus with
    | none => simpa [asks?, hb, busLines, operate, unsubscribe, mail?] using Mails.nothing h
    | some b =>
      simpa [asks?, hb, busLines, Bus.Live.noted, operate, unsubscribe, mail?] using
        Mails.returns (h := h) (setBus_outbox h _ _) _
  | newBus => exact Mails.returns (by rfl) _
  | publish n e =>
    cases hb : h.bus? (.alone n) with
    | none => simpa [asks?, hb, busLines, operate, Host.publish, mail?] using finish_mails (h := h) rfl _
    | some b =>
      simpa [asks?, hb, operate, mail?] using publish_mails (h := h) rfl rfl rfl rfl (by rw [hb]; rfl) e _
  | complete n =>
    cases hb : h.bus? (.alone n) with
    | none => simpa [asks?, hb, busLines, operate, Host.complete, mail?] using finish_mails (h := h) rfl _
    | some b => simpa [asks?, hb, operate, mail?] using complete_mails (h := h) rfl rfl rfl rfl (by rw [hb]; rfl) _
  | relay t broker => exact withThing_mails fun x hx => attach_mails _ _ _
  | post broker thing e => exact post_mails broker thing e

end Operations

/-! ### Inputs -/

section Inputs
variable {h h' : Host}

/-- A move on the outbox, and then what is done from there. -/
theorem Mails.after {m : Outbox.Move} {lines : List LogLine} {before : List Output} {s : Step}
    (hbox : h'.outbox = h.outbox.step m) (hclock : h'.clock = h.clock)
    (hans : before.filterMap Output.answered? = ((h.outbox.noted m).map (·.1)).toList)
    (hlines : before.filterMap Output.reports? = ((h.outbox.noted m).map (·.2)).toList)
    (hmsg : ∀ o ∈ before, o.isMessage = false) (e : Mails h' none lines s) :
    Mails h (some m) lines (Host.prepend before s) := by
  have hstarts := e.starts
  rw [show h'.outbox.after none = h.outbox.after (some m) from hbox, hclock] at hstarts
  refine ⟨hstarts.prepend hmsg, ?_, ?_⟩
  · show (before ++ s.2).filterMap _ = _
    rw [List.filterMap_append, hans, e.answered]
    exact List.append_nil _
  · show (before ++ s.2).filterMap _ = _
    rw [List.filterMap_append, hlines, e.lines]
    rfl

theorem posted_outbox (h : Host) (n : Nat) (failure : Option Thrown) :
    (h.posted n failure).1.outbox = ⟨h.outbox.setStage n .over, h.outbox.taking, h.outbox.queue⟩ := by
  have hset := setStage_outbox h n .over
  simp only [posted]
  cases hp : h.postings[n]? with
  | some p => exact hset
  | none =>
    rw [← hset]
    simp only [setStage, hp]

theorem posted_answered (h : Host) (n : Nat) (failure : Option Thrown) : (h.posted n failure).2.filterMap Output.answered? =
    ((h.outbox.receipt? (n, failure)).map (·.1)).toList := by
  simp only [posted, Outbox.receipt?, outbox]
  cases h.postings[n]? with
  | none => rfl
  | some p => cases failure <;> rfl

theorem posted_lines (h : Host) (n : Nat) (failure : Option Thrown) : (h.posted n failure).2.filterMap Output.reports? =
    ((h.outbox.receipt? (n, failure)).map (·.2)).toList := by
  simp only [posted, Outbox.receipt?, outbox]
  cases h.postings[n]? with
  | none => rfl
  | some p => cases failure <;> rfl

theorem posted_messages (h : Host) (n : Nat) (failure : Option Thrown) : ∀ o ∈ (h.posted n failure).2, o.isMessage = false := by
  intro o ho
  simp only [posted] at ho
  split at ho
  · cases ho
  · rcases List.mem_append.mp ho with ho | ho
    · exact noted_messages _ _ o ho
    · obtain rfl := List.mem_singleton.mp ho
      rfl

/-- A broker is done: its posting goes on, and what it throws is noted at once. -/
theorem brokerDone_mails {f : Frame} {stack : List Frame} (hs : h.stack = f :: stack) {n : Nat}
    (hf : f.posting? = some n) (r : Reply) {lines : List LogLine} {s : Step}
    (e : Mails ({ h with stack }.brokerDone n r).1 none lines s) :
    Mails h (some (.reply r)) lines (Host.prepend ({ h with stack }.brokerDone n r).2 s) := by
  have htaking : h.outbox.taking = n :: stack.filterMap Frame.posting? := by simp [outbox, hs, hf]
  cases r with
  | done v =>
    refine e.after ?_ ?_ ?_ ?_ (by simp [brokerDone])
    · have hset := setStage_outbox { h with stack } n .answered
      simp only [outbox, Outbox.mk.injEq] at hset
      simp [brokerDone, enqueue, outbox, hset, Outbox.step, hs, hf, Job.posted?, Outbox.setStage]
    · simp only [brokerDone, enqueue, setStage]
      split <;> rfl
    · simp [brokerDone, Outbox.noted, htaking]
    · simp [brokerDone, Outbox.noted, htaking]
  | threw t =>
    have hnoted : h.outbox.noted (.reply (.threw t)) = { h with stack }.outbox.receipt? (n, some t) := by
      simp only [Outbox.noted, htaking]
      rfl
    refine e.after ?_ ?_ ?_ ?_ (posted_messages _ n _)
    · refine (posted_outbox { h with stack } n (some t)).trans ?_
      simp [Outbox.step, outbox, hs, hf, Outbox.setStage]
    · simp only [brokerDone, posted, setStage]
      split
      · rfl
      · split <;> rfl
    · rw [hnoted]
      exact posted_answered _ n _
    · rw [hnoted]
      exact posted_lines _ n _
  | promised =>
    refine e.after ?_ ?_ ?_ ?_ (by simp [brokerDone])
    · refine (setStage_outbox { h with stack } n .waiting).trans ?_
      simp [Outbox.step, outbox, hs, hf, Outbox.setStage]
    · simp only [brokerDone, setStage]
      split <;> rfl
    · simp [brokerDone, Outbox.noted, htaking]
    · simp [brokerDone, Outbox.noted, htaking]

theorem replied_mails (g : Grounded h) {f : Frame} {stack : List Frame} (hs : h.stack = f :: stack) (r : Reply) :
    Mails h (f.posting?.map fun _ => .reply r) (h.busLines (h.move? (.reply r))) ({ h with stack }.replied r f) := by
  have hthere : ∀ ref, f.on? ref ≠ none → ∃ b, h.bus? ref = some b := fun ref hon =>
    Option.isSome_iff_exists.mp (g.there f (by simp [hs]) ref hon)
  have hrun : ∀ ref code, f.on? ref = some code →
      (h.view ref).running = code :: stack.filterMap (Frame.on? ref) := by
    intro ref code hcode
    simp [view, hs, hcode]
  have hbus? : ∀ ref, { h with stack }.bus? ref = h.bus? ref := bus?_congr rfl rfl
  -- A frame in which no broker runs leaves the outbox as it is.
  have hplain : f.posting? = none → { h with stack }.outbox = h.outbox := by
    intro hf
    simp [outbox, hs, hf]
  cases f with
  | next ref d after =>
    obtain ⟨b, hb⟩ := hthere ref (by simp [Frame.on?])
    have hnoted : (h.view ref).noted (.done r.thrown?) = (b.afterNext d r.thrown?).2.1 := by
      simp only [Bus.Live.noted, hrun ref (.next d) (by simp [Frame.on?])]
      rw [show (h.view ref).bus = b from bus_of_bus? hb]
    simp only [replied, hbus?, hb, move?, hs, busLines, hnoted]
    exact onBus_mails (hplain rfl) rfl ref after _
  | complete ref c after =>
    obtain ⟨b, hb⟩ := hthere ref (by simp [Frame.on?])
    have hnoted : (h.view ref).noted (.done r.thrown?) = (b.afterComplete c r.thrown?).2.1 := by
      simp only [Bus.Live.noted, hrun ref (.complete c) (by simp [Frame.on?])]
      rw [show (h.view ref).bus = b from bus_of_bus? hb]
    simp only [replied, hbus?, hb, move?, hs, busLines, hnoted]
    exact onBus_mails (hplain rfl) rfl ref after _
  | late s =>
    have hnoted : (h.view s.bus).noted (.done r.thrown?) = [] := by
      simp only [Bus.Live.noted, hrun s.bus (.late s.id) (by simp [Frame.on?])]
    simp only [move?, hs, busLines, hnoted]
    cases r <;> exact Mails.returns (hplain rfl) _
  | handler n =>
    simp only [move?, hs, busLines]
    cases r with
    | done v => exact Mails.returns ((answered_outbox _ _ _).trans (hplain rfl)) _
    | threw t => exact Mails.returns ((answered_outbox _ _ _).trans (hplain rfl)) _
    | promised => exact Mails.returns ((setProgress_outbox _ _ _).trans (hplain rfl)) _
  | relaying n ref d after =>
    obtain ⟨b, hb⟩ := hthere ref (by simp [Frame.on?])
    have a := brokerDone_aside { h with stack } n r
    have hnoted : (h.view ref).noted (.done none) = (b.afterNext d none).2.1 := by
      simp only [Bus.Live.noted, hrun ref (.next d) (by simp [Frame.on?])]
      rw [show (h.view ref).bus = b from bus_of_bus? hb]
    simp only [replied, (a.bus? ref).trans ((hbus? ref).trans hb), move?, hs, busLines, hnoted]
    refine brokerDone_mails hs rfl r ?_
    have hthing : ({ h with stack }.brokerDone n r).1.busThing ref = h.busThing ref := by
      cases ref with
      | own t => simp only [busThing, brokerDone_things]
      | alone k => rfl
    rw [← hthing]
    exact onBus_mails rfl rfl ref after _
  | posting n =>
    simp only [replied, move?, hs, busLines]
    exact brokerDone_mails hs rfl r (Mails.returns rfl _)
  | woken =>
    simp only [replied, move?, hs, busLines]
    exact Mails.plain (hplain rfl) (by simp)

theorem work_mails (hs : h.stack = []) :
    Mails h (h.mail? .tick) (h.busLines (h.move? .tick)) h.work := by
  unfold work
  rcases hq : h.queue with _ | ⟨job, queue⟩
  · simpa [mail?, move?, resumed?, busLines, hs, hq] using Mails.nothing h
  · cases job with
    | posted n failure =>
      have hqueue : h.outbox.queue = (n, failure) :: { h with queue }.outbox.queue := by simp [outbox, hq, Job.posted?]
      have hnoted : h.outbox.noted .note = { h with queue }.outbox.receipt? (n, failure) := by
        simp only [Outbox.noted, hqueue, List.head?_cons, Option.bind_some]
        rfl
      have hmail : h.mail? .tick = some .note := by simp [mail?, hs, hq]
      have hmove : h.busLines (h.move? .tick) = [] := by simp [move?, resumed?, busLines, hs, hq]
      rw [hmail, hmove]
      refine ⟨.quiet ?_ (posted_messages _ n failure), ?_, ?_⟩
      · refine (posted_outbox { h with queue } n failure).trans ?_
        simp only [Outbox.after, Outbox.step, hqueue]
        rfl
      · rw [Option.bind_some, hnoted]
        exact posted_answered _ n failure
      · rw [Option.bind_some, hnoted, List.append_nil]
        exact posted_lines _ n failure
    | wake token =>
      have hbox : ({ h with queue }.push .woken).outbox = h.outbox := by
        simp [outbox, push, hq, Job.posted?, Frame.posting?, List.filterMap_cons]
      simpa [mail?, move?, resumed?, busLines, hs, hq] using Mails.plain hbox
        (by simp [Output.plain] :
          ∀ o ∈ [Output.wake token], o.plain = true)
    | resume n answer =>
      have hbox : { h with queue }.outbox = h.outbox := by simp [outbox, hq, Job.posted?, List.filterMap_cons]
      have hmail : h.mail? .tick = none := by simp [mail?, hs, hq]
      have hmove : h.move? .tick = (h.announced? n answer).map fun a => (a.1, .publish a.2) := by
        simp [move?, resumed?, hs, hq]
      have settled : ∀ outcome, Mails h none [] ({ h with queue }.settle n outcome) := fun outcome =>
        finish_mails hbox (.settled n outcome)
      have announced : ∀ (t : Nat) (e : Event) (after : After),
          Mails h none (h.busLines (((h.bus? (.own t)).map fun _ => (BusRef.own t, e)).map fun a => (a.1, .publish a.2)))
            ({ h with queue }.publish (.own t) e after) := by
        intro t e after
        have hbus : { h with queue }.bus? (.own t) = h.bus? (.own t) := bus?_congr rfl rfl _
        cases hb : h.bus? (.own t) with
        | none =>
          simp only [Host.publish, hbus, hb]
          exact finish_mails hbox after
        | some b => exact publish_mails hbox rfl hbus rfl (by rw [hb]; rfl) e after
      rw [hmail, hmove]
      simp only [announced?, resume]
      cases hcall : h.calls[n]? with
      | none => cases answer <;> exact Mails.plain hbox (by simp)
      | some c =>
        obtain ⟨thing, ask, accepted, progress⟩ := c
        cases answer with
        | error t => exact settled (.error t)
        | ok v =>
          cases ask with
          | read property => exact settled (.ok v)
          | write property value => exact announced thing _ _
          | invoke action arguments => exact announced thing _ _

/-- An input makes the move on the outbox that it stands for, and whatever else it does hands over one message
    at most. -/
theorem step_mails (g : Grounded h) (i : Input) : Mails h (h.mail? i) (h.busLines (h.move? i)) (h.step i) := by
  cases i with
  | operate op => exact operate_mails op
  | reply r =>
    cases hs : h.stack with
    | nil => simpa [mail?, move?, busLines, step, hs] using Mails.nothing h
    | cons f stack =>
      have e := replied_mails g hs r
      simpa [mail?, step, hs] using e
  | answer n outcome =>
    simp only [step]
    split
    · exact Mails.plain (answered_outbox h n outcome) (by simp)
    · exact Mails.nothing h
  | acknowledge n failure =>
    show Mails h (some (.acknowledge n failure)) [] (h.step (.acknowledge n failure))
    rcases hp : h.postings[n]? with _ | ⟨thing, event, stage⟩
    · simp only [step, hp]
      exact ⟨.quiet (by simp [Outbox.after, Outbox.step, outbox, hp]) (by simp), rfl, rfl⟩
    · cases stage with
      | waiting =>
        simp only [step, hp]
        refine ⟨.quiet ?_ (by simp), rfl, rfl⟩
        have hset := setStage_outbox h n .answered
        simp only [outbox, Outbox.mk.injEq] at hset
        simp [enqueue, outbox, hset, Outbox.after, Outbox.step, hp, Job.posted?, Outbox.setStage]
      | _ =>
        simp only [step, hp]
        exact ⟨.quiet (by simp [Outbox.after, Outbox.step, outbox, hp]) (by simp), rfl, rfl⟩
  | defer token => exact Mails.plain (by simp [enqueue, outbox, Job.posted?]) (by simp)
  | tick =>
    cases hs : h.stack with
    | nil =>
      have e := work_mails hs
      simpa [step, hs] using e
    | cons f stack => simpa [mail?, move?, busLines, step, hs] using Mails.nothing h
  | setClock ms => exact Mails.plain (by rfl) (by simp)

end Inputs

end Host
end ThingHost
