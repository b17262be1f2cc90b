import ThingHost.Proofs.Host.Roll

/-! The law of delivery, for every bus of a host and everything that can be done with the host: what is published on a
    bus is delivered once, in one order for everybody, to those who were there when its delivery started and are still
    there when their turn comes; and what waits is not forgotten. Who is there, and which events they asked for, is
    told by the roll of the bus. -/

namespace ThingHost
namespace Host

/-- A delivery is for a subscription that is open when its turn comes, and asked for the event. -/
def Member.takes (m : Member) (r : Bus.Round Listener) : Bool := r.opens m.id && m.admits r.event

/-- What the step of the input `i` after the run `earlier` adds to the deliveries of a bus: turns in the last one, and
    others that start. -/
structure Continues (ref : BusRef) (earlier : List Input) (i : Input) (more : List (Sink Listener × Bool))
    (fresh : List (Bus.Round Listener)) : Prop where
  rounds : rounds ref (earlier ++ [i]) = Bus.extend more (rounds ref earlier) ++ fresh
  /-- A delivery is for those who are there when it starts, in the order in which they came, -/
  audience : ∀ r ∈ fresh, r.audience.map (·.id) = (roll ref earlier).present.map (·.id)
  /-- and a turn is open just if whoever takes it is there then. -/
  turns : ∀ t ∈ more ++ fresh.flatMap (·.turns), t.2 = (roll ref earlier).attends t.1.id

/-- What a bus delivers in the course of a run, and to whom. -/
structure Delivers (ref : BusRef) (inputs : List Input) : Prop where
  /-- A bus that stands alone takes what its clients publish until somebody completes it. -/
  taken : ∀ n, ref = .alone n → published ref inputs = (roll ref inputs).published
  /-- Deliveries start in the order in which the bus takes the events, and none is left out. -/
  ordered : (rounds ref inputs).map (·.event) <+: published ref inputs
  /-- They start one at a time: only the last one may be under way. -/
  single : ∀ r ∈ (rounds ref inputs).dropLast, r.Finished
  /-- In a delivery turns are taken in the order in which the subscriptions were made. -/
  turns : ∀ r ∈ rounds ref inputs, r.turns.map (·.1) <+: r.audience
  continues : ∀ earlier i later, inputs = earlier ++ i :: later → ∃ more fresh, Continues ref earlier i more fresh
  /-- A subscription is handed the events that it asked for, of the deliveries in which it is open when its turn
      comes, -/
  received : ∀ m ∈ (roll ref inputs).members,
    received ⟨ref, m.id⟩ inputs = ((rounds ref inputs).filter m.takes).map (·.event)
  /-- with one call of its client; -/
  called : ∀ earlier i later, inputs = earlier ++ i :: later → ∀ m ∈ (roll ref inputs).members, ∀ e n,
    handed? ⟨ref, m.id⟩ (reached earlier) i = some e → m.client = some n →
      ((reached earlier).step i).2.filter (·.calls) = [.callNext n e]
  /-- and whoever did not subscribe is handed none. -/
  others : ∀ id, (∀ m ∈ (roll ref inputs).members, m.id ≠ id) → Host.received ⟨ref, id⟩ inputs = []
  /-- So what two subscriptions are both handed they are handed in the same order. -/
  agreed : ∀ a ∈ (roll ref inputs).members, ∀ b ∈ (roll ref inputs).members,
    let common := ((rounds ref inputs).filter fun r => a.takes r && b.takes r).map (·.event)
    common.Sublist (Host.received ⟨ref, a.id⟩ inputs) ∧ common.Sublist (Host.received ⟨ref, b.id⟩ inputs)
  /-- When no event is being handed to anybody, the bus is idle and every delivery is finished; and
      everything that the bus took was delivered, if it was not completed. -/
  idle : delivering ref (reached inputs) = false →
    ((reached inputs).bus ref).draining = false ∧ ((reached inputs).bus ref).pending = [] ∧
      (∀ r ∈ rounds ref inputs, r.Finished) ∧
      ((roll ref inputs).ended = false → (rounds ref inputs).map (·.event) = published ref inputs)

theorem delivering_eq (h : Host) (ref : BusRef) : delivering ref h = (h.view ref).running.any fun r =>
    match r with
    | .next _ => true
    | _ => false := by
  simp only [delivering, view, List.any_filterMap]
  congr 1
  funext f
  cases f.on? ref with
  | none => rfl
  | some r => cases r <;> rfl

section Rest
variable (ref : BusRef) (inputs : List Input)

theorem received_rounds (id : Nat) :
    received ⟨ref, id⟩ inputs = ((rounds ref inputs).filter (·.reaches id)).map (·.event) :=
  (received_eq ⟨ref, id⟩ inputs).trans ((record_sound ref inputs).faithful.received id)

theorem rounds_ordered : (rounds ref inputs).map (·.event) <+: published ref inputs := by
  obtain ⟨above, base, -, -, hdel, -⟩ := (record_sound ref inputs).frames
  exact record_published ref inputs ▸ hdel.ordered

variable {ref inputs}

theorem at_rest (hidle : delivering ref (reached inputs) = false) :
    Bus.AtRest ((reached inputs).bus ref) (rounds ref inputs) (published ref inputs) := by
  obtain ⟨above, base, hrun, -, hdel, -⟩ := (record_sound ref inputs).frames
  rw [record_live] at hrun
  have hnone : base = none := by
    rw [delivering_eq, hrun] at hidle
    cases base with
    | none => rfl
    | some d => simp at hidle
  subst hnone
  rw [← record_bus, ← record_published]
  exact hdel

end Rest

/-! ### Whom a delivery reaches -/

section Reaching
variable {ref : BusRef} {inputs a : List Input} {i : Input} {s : Sink Listener}

theorem continues (ref : BusRef) (earlier : List Input) (i : Input) :
    ∃ more fresh, Continues ref earlier i more fresh := by
  have law := record_sound ref earlier
  rcases hm : moveOn ref (reached earlier) i with _ | m
  · refine ⟨[], [], ?_, by simp, by simp⟩
    rw [rounds, record_snoc, hm, Bus.extend_nil, List.append_nil]
    rfl
  · obtain ⟨more, fresh, hrounds, haudience, hturns⟩ := law.rounds_step m
    refine ⟨more, fresh, ?_, fun r hr => ?_, fun t ht => ?_⟩
    · rw [rounds, record_snoc, hm]
      exact hrounds
    · rw [haudience r hr, present_eq, record_bus, List.map_map]
      rfl
    · have htakes := hturns t ht
      cases hended : (roll ref earlier).ended with
      | true =>
        rw [attends_of_ended hended]
        exact htakes.done (by rw [record_bus, ← (tallies ref earlier).ended, hended])
      | false =>
        rw [attends_eq hended (made_of_early htakes.early), ← record_bus]
        exact congrArg Prod.snd htakes.turn

/-- The turn of a subscription is its own, for nobody else has its number. -/
theorem reaches_eq (hs : s ∈ made ref inputs) {r : Bus.Round Listener} (hr : r ∈ rounds ref inputs) :
    r.reaches s.id = (Member.of s).takes r := by
  rw [Bool.eq_iff_iff, Member.takes, Bool.and_eq_true, Bus.Round.reaches, Bus.Round.opens, List.any_eq_true,
    List.any_eq_true]
  have own : ∀ t ∈ r.turns, t.1.id = s.id → t.1 = s := fun t ht hid => made_unique (made_of_turn hr ht) hs hid
  constructor
  · rintro ⟨t, ht, hreach⟩
    obtain ⟨hid, hreach⟩ := (Bool.and_eq_true _ _).mp hreach
    obtain ⟨hopen, hwants⟩ := (Bool.and_eq_true _ _).mp hreach
    refine ⟨⟨t, ht, (Bool.and_eq_true _ _).mpr ⟨hid, hopen⟩⟩, ?_⟩
    rwa [own t ht (of_decide_eq_true hid)] at hwants
  · rintro ⟨⟨t, ht, hopens⟩, hadmits⟩
    obtain ⟨hid, hopen⟩ := (Bool.and_eq_true _ _).mp hopens
    refine ⟨t, ht, (Bool.and_eq_true _ _).mpr ⟨hid, (Bool.and_eq_true _ _).mpr ⟨hopen, ?_⟩⟩⟩
    rw [own t ht (of_decide_eq_true hid)]
    exact hadmits

theorem received_member (hs : s ∈ made ref inputs) :
    received ⟨ref, s.id⟩ inputs = ((rounds ref inputs).filter (Member.of s).takes).map (·.event) := by
  rw [received_rounds]
  exact congrArg (List.map _) (List.filter_congr fun r hr => reaches_eq hs hr)

theorem received_of_nobody {id : Nat} (hnone : ∀ s ∈ made ref inputs, s.id ≠ id) : received ⟨ref, id⟩ inputs = [] := by
  rw [received_rounds, List.map_eq_nil_iff, List.filter_eq_nil_iff]
  intro r hr hreach
  obtain ⟨t, ht, hreach⟩ := List.any_eq_true.mp hreach
  exact hnone t.1 (made_of_turn hr ht) (of_decide_eq_true ((Bool.and_eq_true _ _).mp hreach).1)

/-- The code `f` that the step of an input starts with its last output, which hands an event to a subscription. -/
structure Hands (ref : BusRef) (s : Sink Listener) (e : Event) (h : Host) (i : Input) (f : Frame) (before : List Output)
    (o : Output) (d : Delivery Listener) : Prop where
  stack : (h.step i).1.stack = f :: h.base i
  out : (h.step i).2 = before ++ [o]
  opens : f.Opens o
  quiet : ∀ x ∈ before, x.calls = false
  on : f.on? ref = some (.next d)
  current : d.current = s
  event : d.event = e

theorem hands_of_handed {more : List Input} {e : Event} (hs : s ∈ made ref (a ++ more))
    (hh : handed? ⟨ref, s.id⟩ (reached a) i = some e) : ∃ f before o d, Hands ref s e (reached a) i f before o d := by
  have g := grounded_reached a
  rw [handed?_eq g] at hh
  obtain ⟨code, hstarted, hfor⟩ := Option.bind_eq_some_iff.mp hh
  obtain ⟨m, -, hlive⟩ := Option.bind_eq_some_iff.mp hstarted
  cases code with
  | next d =>
    obtain ⟨hid, hevent⟩ := Option.ite_none_right_eq_some.mp hfor
    -- Nobody else has the number.
    have hcurrent : d.current = s := by
      rw [← record_live] at hlive
      exact made_unique (made_append a more (made_of_early ((record_sound ref a).early_of_started hlive))) hs hid
    rcases step_code g i with ⟨-, hnone⟩ | ⟨f, before, o, hstack, hout, hopens, hquiet, hon⟩
    · rw [hnone] at hstarted
      cases hstarted
    · exact ⟨f, before, o, d, hstack, hout, hopens, hquiet, (hon ref).symm.trans hstarted, hcurrent,
        Option.some.inj hevent⟩
  | _ => cases hfor

/-- A client that is handed an event is called with it. -/
theorem called_of_handing {more : List Input} {e : Event} {n : Nat} (hs : s ∈ made ref (a ++ more))
    (howner : s.owner.client? = some n) (hh : handed? ⟨ref, s.id⟩ (reached a) i = some e) :
    ((reached a).step i).2.filter (·.calls) = [.callNext n e] := by
  obtain ⟨f, before, o, d, -, hout, hopens, hquiet, hon, rfl, rfl⟩ := hands_of_handed hs hh
  rw [hout, hopens.only hquiet]
  cases hopens with
  | next owner =>
    obtain ⟨-, hd⟩ := Option.ite_none_right_eq_some.mp hon
    cases hd
    rw [owner] at howner
    cases howner
    rfl
  | relaying owner =>
    obtain ⟨-, hd⟩ := Option.ite_none_right_eq_some.mp hon
    cases hd
    rw [owner] at howner
    cases howner
  | complete owner =>
    obtain ⟨-, hd⟩ := Option.ite_none_right_eq_some.mp hon
    cases hd
  | late =>
    obtain ⟨-, hd⟩ := Option.ite_none_right_eq_some.mp hon
    cases hd
  | _ => cases hon

end Reaching

/-- Every bus keeps the law of delivery, whatever the clients of the host do. -/
theorem delivery_law (ref : BusRef) (inputs : List Input) : Delivers ref inputs := by
  obtain ⟨above, base, -, -, hdel, -⟩ := (record_sound ref inputs).frames
  have hrec : ∀ m ∈ (roll ref inputs).members,
      received ⟨ref, m.id⟩ inputs = ((rounds ref inputs).filter m.takes).map (·.event) := by
    intro m hm
    obtain ⟨s, hs, rfl⟩ := mem_members.mp hm
    exact received_member hs
  refine ⟨fun n hn => ((tallies ref inputs).published n hn).symm, rounds_ordered ref inputs, hdel.single, hdel.in_turn,
    fun earlier i later _ => continues ref earlier i, hrec, ?_, fun id hnone => received_of_nobody fun s hs => ?_,
    fun a ha b hb => ?_, fun hidle => ?_⟩
  · rintro earlier i later rfl m hm e n hh hclient
    obtain ⟨s, hs, rfl⟩ := mem_members.mp hm
    exact called_of_handing hs hclient hh
  · exact hnone (Member.of s) (mem_members.mpr ⟨s, hs, rfl⟩)
  · rw [hrec a ha, hrec b hb]
    refine ⟨List.Sublist.map _ ?_, List.Sublist.map _ ?_⟩
    · exact List.monotone_filter_right _ fun r hr => (Bool.and_eq_true_iff.mp hr).1
    · exact List.monotone_filter_right _ fun r hr => (Bool.and_eq_true_iff.mp hr).2
  · have rest := at_rest hidle
    exact ⟨rest.draining, rest.pending, rest.finished, fun hended => rest.all ((tallies ref inputs).ended ▸ hended)⟩

/-- An event of a name, without anything else. -/
def shout (name : String) : Event := .user (.string name) .null

/-- Observers that publish while they are handed an event. The first of them complains, the guard of the second does
    at one event, and somebody who comes in the middle leaves before it is its turn. -/
def chatter : List Input :=
  [ .operate .newBus,
    .operate (.subscribe (.bus 0 fun _ => .ok true) 1 true),
    .operate (.subscribe (.bus 0 fun e => if e.isUser "a" then .error (.failure "Error" "no") else .ok true) 2 true),
    .operate (.publish 0 (shout "a")),
    .operate (.publish 0 (shout "b")),
    .operate (.subscribe (.bus 0 fun _ => .ok true) 3 true),
    .reply (.threw (.failure "Error" "no")),
    .operate (.unsubscribe ⟨.alone 0, 3⟩),
    .reply (.done .undefined),
    .operate (.publish 0 (shout "c")),
    .reply (.done .undefined),
    .reply (.done .undefined),
    .reply (.done .undefined) ]

theorem chatter_delivers : Delivers (.alone 0) chatter ∧
    received ⟨.alone 0, 1⟩ chatter = [shout "a", shout "b", shout "c"] ∧
    received ⟨.alone 0, 2⟩ chatter = [shout "b", shout "c"] ∧ received ⟨.alone 0, 3⟩ chatter = [] ∧
    (rounds (.alone 0) chatter).map (fun r => r.turns.map fun t => (t.1.id, t.2)) =
      [[(1, true), (2, true)], [(1, true), (2, true), (3, false)], [(1, true), (2, true)]] ∧
    delivering (.alone 0) (reached chatter) = false :=
  ⟨delivery_law (.alone 0) chatter, by rfl, by rfl, by rfl, by rfl, by rfl⟩

end Host
end ThingHost
