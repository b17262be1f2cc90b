import ThingHost.Proofs.Bus.Leaving
import ThingHost.Proofs.Bus.Screening
import ThingHost.Proofs.Host.Record

/-! Who is on a bus, and what is published there, as everybody can tell who sees the inputs. The roll of a bus lists
    whoever subscribed, with the events that were asked for, whoever left since, and what was published until somebody
    completed the bus. It is kept without a look at the bus, and is found to say the same. -/

namespace ThingHost

/-- The client whose code is called; a relay calls a broker. -/
def Listener.client? : Listener → Option Nat
  | .client n => some n
  | .relay .. => none

/-- The events that are asked for with a topic. A guard that throws does not let an event through. -/
def ExposedThing.Topic.admits : ExposedThing.Topic → Event → Bool
  | .event (.string name), .user (.string n) _ => n = name
  | .property (.string name), .notification .propertyChange data =>
    match Members.get? "name" data with
    | some (.string n) => n = name
    | _ => false
  | .description, .notification .descriptionChange _ => true
  | .all guard, e =>
    match guard e with
    | .ok b => b
    | .error _ => false
  | _, _ => false

namespace Host

/-! ### The roll -/

/-- A subscription, as it was asked for. -/
structure Member where
  id : Nat
  client : Option Nat
  admits : Event → Bool
  /-- The client wants to know of the completion. -/
  completes : Bool

/-- The subscription that an input makes on a bus, if it is given the number `id`. -/
def joins? (ref : BusRef) (h : Host) (id : Nat) : Input → Option Member
  | .operate (.subscribe (.topic t topic) client completes) =>
    if ref = .own t ∧ h.things[t]?.any (·.offers topic) then some ⟨id, some client, topic.admits, completes⟩ else none
  | .operate (.subscribe (.bus n guard) client completes) =>
    if ref = .alone n ∧ n < h.buses.length then
      some ⟨id, some client, (ExposedThing.Topic.all guard).admits, completes⟩
    else none
  | .operate (.relay t _) =>
    if ref = .own t ∧ t < h.things.length then some ⟨id, none, fun e => !Json.holdsBigint e.data, false⟩ else none
  | _ => none

/-- The subscription that is left with an input. -/
def leaves? (ref : BusRef) : Input → Option Nat
  | .operate (.unsubscribe s) => if s.bus = ref then some s.id else none
  | _ => none

/-- An input asks for the completion of a bus: of one that stands alone, or of that of a Thing that is destroyed. -/
def ends (ref : BusRef) (h : Host) : Input → Bool
  | .operate (.complete n) => ref = .alone n ∧ n < h.buses.length
  | .operate (.destroy t) => ref = .own t ∧ h.things[t]?.any fun x => h.servients[x.servient]?.isSome
  | _ => false

/-- The event that a client publishes with an input on a bus that stands alone. -/
def says? (ref : BusRef) (h : Host) : Input → Option Event
  | .operate (.publish n e) => if ref = .alone n ∧ n < h.buses.length then some e else none
  | _ => none

structure Roll where
  /-- Whoever subscribed, in this order. -/
  members : List Member
  left : List Nat
  /-- The bus was completed. -/
  ended : Bool
  /-- What clients published before that. -/
  published : List Event

namespace Roll

def empty : Roll := ⟨[], [], false, []⟩

/-- Those who are there: nobody is when the bus was completed. -/
def present (r : Roll) : List Member := r.members.filter fun m => !r.ended && !r.left.contains m.id

/-- Whoever has the number is there. -/
def attends (r : Roll) (id : Nat) : Bool := r.present.any (·.id = id)

/-- The roll after an input. Subscriptions are numbered as they are made. -/
def step (r : Roll) (ref : BusRef) (h : Host) (i : Input) : Roll where
  members := r.members ++ (joins? ref h (r.members.length + 1) i).toList
  left := r.left ++ (leaves? ref i).toList.filter fun id => r.members.any (·.id = id)
  ended := r.ended || ends ref h i
  published := r.published ++ if r.ended then [] else (says? ref h i).toList

/-- The roll after some inputs. -/
def run (r : Roll) (ref : BusRef) (h : Host) : List Input → Roll
  | [] => r
  | i :: rest => (r.step ref h i).run ref (h.step i).1 rest

end Roll

/-- The roll of a bus after a run. -/
def roll (ref : BusRef) (inputs : List Input) : Roll := Roll.empty.run ref .new inputs

theorem Roll.run_snoc (r : Roll) (ref : BusRef) (h : Host) (inputs : List Input) (i : Input) :
    r.run ref h (inputs ++ [i]) = (r.run ref h inputs).step ref (h.run inputs).1 i := by
  induction inputs generalizing r h with
  | nil => rfl
  | cons j inputs ih => exact ih (r.step ref h j) (h.step j).1

theorem roll_snoc (ref : BusRef) (inputs : List Input) (i : Input) :
    roll ref (inputs ++ [i]) = (roll ref inputs).step ref (reached inputs) i := Roll.run_snoc ..

/-! ### Who joins -/

/-- How the roll has a subscription. -/
def Member.of (s : Sink Listener) : Member := ⟨s.id, s.owner.client?, Bus.wants s, s.completes⟩

section Joining
variable {h : Host} {ref : BusRef} {i : Input}

theorem wants_screenBy (guard : Event → Except Thrown Bool) (id : Nat) (completes : Bool) (l : Listener) :
    Bus.wants ⟨id, ExposedThing.screenBy guard, completes, l⟩ = (ExposedThing.Topic.all guard).admits := by
  funext e
  simp only [Bus.wants, ExposedThing.screenBy, ExposedThing.Topic.admits]
  cases guard e with
  | error t => rfl
  | ok b => cases b <;> rfl

/-- A guard that throws does not let an event through. -/
theorem wants_iff (guard : Event → Except Thrown Bool) (id : Nat) (completes : Bool) (l : Listener) (e : Event) :
    Bus.wants ⟨id, ExposedThing.screenBy guard, completes, l⟩ e = true ↔ guard e = .ok true := by
  rw [wants_screenBy, ExposedThing.Topic.admits]
  cases guard e with
  | error t => simp
  | ok b => simp

theorem wants_relay (id : Nat) (thing : String) (completes : Bool) (l : Listener) :
    Bus.wants ⟨id, Relay.screen (.string thing), completes, l⟩ = fun e => !Json.holdsBigint e.data := by
  funext e
  simp only [Bus.wants, Relay.screen, Relay.writable]
  by_cases hb : Json.holdsBigint e.data = true <;> simp [hb]

/-- The guard of a topic lets through what is asked for with it. -/
theorem admits_guard (topic : ExposedThing.Topic) : topic.admits = (ExposedThing.Topic.all topic.guard).admits := by
  funext e
  cases topic with
  | event name =>
    cases name with
    | string s =>
      cases e with
      | notification about data => rfl
      | user n data => cases n <;> rfl
    | _ => rfl
  | property name =>
    cases name with
    | string s =>
      cases e with
      | notification about data => cases about <;> rfl
      | user n data => rfl
    | _ => rfl
  | description =>
    cases e with
    | notification about data => cases about <;> rfl
    | user n data => rfl
  | all guard => rfl

theorem there_alone {n : Nat} : n < h.buses.length ↔ (h.bus? (.alone n)).isSome := by
  simp [bus?, Host.bus?]

/-- Whoever is made has joined, with what was asked for. -/
theorem joins_of_made {s : Sink Listener} (hs : made? ref h i = some s) : joins? ref h s.id i = some (Member.of s) := by
  obtain ⟨m, hmove, hmade⟩ := Option.bind_eq_some_iff.mp hs
  cases asked_of_move hmove with
  | listening there offered =>
    obtain ⟨hoffers, rfl⟩ := ExposedThing.screen_eq_ok.mp offered
    cases hmade
    simp only [joins?, there, Option.any_some, hoffers, and_self, ↓reduceIte, Member.of, wants_screenBy, ← admits_guard]
    rfl
  | guarded there =>
    cases hmade
    simp only [joins?, there_alone, there, and_self, ↓reduceIte, Member.of, wants_screenBy]
    rfl
  | relayed there =>
    obtain ⟨hlt, -⟩ := List.getElem?_eq_some_iff.mp there
    cases hmade
    rw [Member.of, wants_relay]
    exact if_pos ⟨rfl, hlt⟩
  | _ => cases hmade

theorem made_of_joins {id : Nat} {m : Member} (hm : joins? ref h id i = some m) : ∃ s, made? ref h i = some s := by
  suffices hmove : ∃ screen completes l, moveOn ref h i = some (.attach screen completes l) by
    obtain ⟨screen, completes, l, hmove⟩ := hmove
    exact ⟨⟨(h.bus ref).nextId, screen, completes, l⟩, by rw [made?, hmove]; rfl⟩
  cases i with
  | operate op =>
    cases op with
    | subscribe source client completes =>
      cases source with
      | topic t topic =>
        obtain ⟨⟨rfl, hoffers⟩, -⟩ := Option.ite_none_right_eq_some.mp hm
        obtain ⟨x, hx, hoffers⟩ := (Option.any_eq_true _ _).mp hoffers
        simp [moveOn, on_eq_some, move?, asks?, hx, ExposedThing.screen_of_offers hoffers]
      | bus n guard =>
        obtain ⟨⟨rfl, hlt⟩, -⟩ := Option.ite_none_right_eq_some.mp hm
        obtain ⟨b, hb⟩ := Option.isSome_iff_exists.mp (there_alone.mp hlt)
        simp [moveOn, on_eq_some, move?, asks?, hb]
    | relay t broker =>
      obtain ⟨⟨rfl, hlt⟩, -⟩ := Option.ite_none_right_eq_some.mp hm
      simp [moveOn, on_eq_some, move?, asks?, List.getElem?_eq_getElem hlt]
    | _ => cases hm
  | _ => cases hm

theorem joins?_eq (ref : BusRef) (h : Host) (i : Input) :
    joins? ref h (h.bus ref).nextId i = (made? ref h i).map Member.of := by
  cases hs : made? ref h i with
  | some s =>
    obtain ⟨m, -, hmade⟩ := Option.bind_eq_some_iff.mp hs
    exact (Bus.made_id hmade : s.id = (h.bus ref).nextId) ▸ joins_of_made hs
  | none =>
    cases hm : joins? ref h (h.bus ref).nextId i with
    | none => rfl
    | some m =>
      obtain ⟨s, hmade⟩ := made_of_joins hm
      rw [hs] at hmade
      cases hmade

/-! ### Who leaves, and the end -/

theorem leaves?_eq (hthere : (h.bus? ref).isSome) (id : Nat) :
    leaves? ref i = some id ↔ moveOn ref h i = some (.unsubscribe id) := by
  constructor
  · intro hl
    cases i with
    | operate op =>
      cases op with
      | unsubscribe s =>
        obtain ⟨b, hb⟩ := Option.isSome_iff_exists.mp hthere
        obtain ⟨rfl, hid⟩ := Option.ite_none_right_eq_some.mp hl
        cases hid
        simp [moveOn, on_eq_some, move?, asks?, hb]
      | _ => cases hl
    | _ => cases hl
  · intro hmove
    cases asked_of_move hmove
    exact if_pos rfl

theorem ends_iff : ends ref h i = true ↔ moveOn ref h i = some .complete := by
  constructor
  · intro he
    cases i with
    | operate op =>
      cases op with
      | complete n =>
        obtain ⟨rfl, hlt⟩ := of_decide_eq_true he
        obtain ⟨b, hb⟩ := Option.isSome_iff_exists.mp (there_alone.mp hlt)
        simp [moveOn, on_eq_some, move?, asks?, hb]
      | destroy t =>
        obtain ⟨rfl, hserved⟩ := of_decide_eq_true he
        obtain ⟨x, hx, hserved⟩ := (Option.any_eq_true _ _).mp hserved
        obtain ⟨s, hs⟩ := Option.isSome_iff_exists.mp hserved
        simp [moveOn, on_eq_some, move?, asks?, hx, hs]
      | _ => cases he
    | _ => cases he
  · intro hmove
    cases asked_of_move hmove with
    | completed there => exact decide_eq_true ⟨rfl, there_alone.mpr there⟩
    | destroyed there served => exact decide_eq_true ⟨rfl, by simp [there, served]⟩

/-- What is published on a bus that stands alone is what clients say. -/
theorem taken?_alone (n : Nat) (h : Host) (i : Input) :
    taken? (.alone n) h i = if (h.bus (.alone n)).completed then none else says? (.alone n) h i := by
  have hsaid : ∀ e, says? (.alone n) h i = some e ↔ moveOn (.alone n) h i = some (.publish e) := by
    intro e
    constructor
    · intro hs
      cases i with
      | operate op =>
        cases op with
        | publish n' e' =>
          obtain ⟨⟨heq, hlt⟩, he⟩ := Option.ite_none_right_eq_some.mp hs
          cases heq
          cases he
          obtain ⟨b, hb⟩ := Option.isSome_iff_exists.mp (there_alone.mp hlt)
          simp [moveOn, on_eq_some, move?, asks?, hb]
        | _ => cases hs
      | _ => cases hs
    · intro hmove
      cases asked_of_move hmove with
      | published there => exact if_pos ⟨rfl, there_alone.mpr there⟩
  cases hs : says? (.alone n) h i with
  | some e => rw [taken?, (hsaid e).mp hs]
  | none =>
    rw [taken?]
    split
    · rename_i e hmove
      rw [(hsaid e).mpr hmove] at hs
      cases hs
    · rw [ite_self]

end Joining

/-! ### The roll and the bus -/

/-- The roll of a bus says what the bus and its record say. -/
structure Tallies (ref : BusRef) (inputs : List Input) : Prop where
  members : (roll ref inputs).members = (made ref inputs).map Member.of
  ended : (roll ref inputs).ended = ((reached inputs).bus ref).completed
  known : ∀ id ∈ (roll ref inputs).left, ∃ s ∈ made ref inputs, s.id = id
  left : (roll ref inputs).ended = false → ∀ s ∈ made ref inputs,
    s.id ∈ (roll ref inputs).left ↔ s.id ∈ ((reached inputs).bus ref).closed
  published : ∀ n, ref = .alone n → (roll ref inputs).published = published ref inputs

section Runs
variable {ref : BusRef} {inputs : List Input}

theorem nextId_reached (ref : BusRef) (inputs : List Input) :
    ((reached inputs).bus ref).nextId = (made ref inputs).length + 1 := by
  rw [← record_bus, (record_sound ref inputs).numbered.nextId, record_attached]

theorem id_of_made {i : Input} {s : Sink Listener} (hs : made? ref (reached inputs) i = some s) :
    s.id = ((reached inputs).bus ref).nextId := by
  obtain ⟨m, -, hmade⟩ := Option.bind_eq_some_iff.mp hs
  exact Bus.made_id hmade

theorem completed_snoc (ref : BusRef) (inputs : List Input) (i : Input) :
    ((reached (inputs ++ [i])).bus ref).completed =
      (((reached inputs).bus ref).completed || ends ref (reached inputs) i) := by
  rw [← record_bus, ← record_bus, record_snoc, Bool.eq_iff_iff, Bool.or_eq_true, ends_iff]
  cases moveOn ref (reached inputs) i with
  | none => simp
  | some m =>
    rw [Option.some_inj]
    exact Bus.step_completed _ m

/-- As long as a bus is not completed, whoever leaves is closed, and nobody else. -/
theorem closed_snoc {i : Input} (hopen : ((reached (inputs ++ [i])).bus ref).completed = false) {s : Sink Listener}
    (hs : s ∈ made ref inputs) : s.id ∈ ((reached (inputs ++ [i])).bus ref).closed ↔
      s.id ∈ ((reached inputs).bus ref).closed ∨ leaves? ref i = some s.id := by
  have hlt : s.id < (record ref inputs).live.bus.nextId :=
    (record_sound ref inputs).numbered.id_lt (record_attached ref inputs ▸ hs)
  rw [leaves?_eq (there_of_made hs)]
  rw [← record_bus, record_snoc] at hopen ⊢
  rw [← record_bus]
  cases hm : moveOn ref (reached inputs) i with
  | none => simp
  | some m =>
    rw [hm] at hopen
    rw [Option.some_inj]
    exact (record_sound ref inputs).closed_step hopen hlt

/-- A subscription that is made on a bus which goes on is open. -/
theorem open_of_made {i : Input} (hopen : ((reached (inputs ++ [i])).bus ref).completed = false) {s : Sink Listener}
    (hs : made? ref (reached inputs) i = some s) : s.id ∉ ((reached (inputs ++ [i])).bus ref).closed := by
  obtain ⟨m, hm, hmade⟩ := Option.bind_eq_some_iff.mp hs
  cases m with
  | attach screen completes l =>
    rw [← record_bus, record_snoc, hm] at hopen ⊢
    have hsound := record_sound ref inputs
    have hbus : ((record ref inputs).step (.attach screen completes l)).live.bus =
        ((record ref inputs).live.bus.attach screen completes l).1 := rfl
    rw [hbus, Bus.attach_open (Bus.open_of_step _ _ hopen), id_of_made hs, ← record_bus]
    exact fun hcl => Nat.lt_irrefl _ (hsound.numbered.closed _ hcl)
  | _ => cases hmade

theorem made_snoc (ref : BusRef) (inputs : List Input) (i : Input) :
    made ref (inputs ++ [i]) = made ref inputs ++ (made? ref (reached inputs) i).toList :=
  seen_snoc _ inputs i

theorem published_snoc (ref : BusRef) (inputs : List Input) (i : Input) :
    published ref (inputs ++ [i]) = published ref inputs ++ (taken? ref (reached inputs) i).toList :=
  seen_snoc _ inputs i

/-- Whoever leaves is somebody who subscribed. -/
theorem Tallies.mem_left (t : Tallies ref inputs) (i : Input) {id : Nat} : id ∈ (roll ref (inputs ++ [i])).left ↔
    id ∈ (roll ref inputs).left ∨ leaves? ref i = some id ∧ ∃ s ∈ made ref inputs, s.id = id := by
  have hmember : ((roll ref inputs).members.any (·.id = id)) = true ↔ ∃ s ∈ made ref inputs, s.id = id := by
    rw [t.members, List.any_map, List.any_eq_true]
    exact exists_congr fun s => and_congr_right fun _ => decide_eq_true_iff
  have hleft : (roll ref (inputs ++ [i])).left = (roll ref inputs).left ++
      (leaves? ref i).toList.filter fun id => (roll ref inputs).members.any (·.id = id) := by
    rw [roll_snoc]
    rfl
  rw [hleft, List.mem_append, List.mem_filter, Option.mem_toList, hmember]

theorem Tallies.known_snoc (t : Tallies ref inputs) (i : Input) :
    ∀ id ∈ (roll ref (inputs ++ [i])).left, ∃ s ∈ made ref inputs, s.id = id := fun id hid =>
  ((t.mem_left i).mp hid).elim (t.known id) And.right

theorem Tallies.left_snoc (t : Tallies ref inputs) {i : Input}
    (hopen : ((reached (inputs ++ [i])).bus ref).completed = false) {s : Sink Listener}
    (hs : s ∈ made ref (inputs ++ [i])) :
    s.id ∈ (roll ref (inputs ++ [i])).left ↔ s.id ∈ ((reached (inputs ++ [i])).bus ref).closed := by
  have hbefore : (roll ref inputs).ended = false := by
    rw [completed_snoc, ← t.ended] at hopen
    exact (Bool.or_eq_false_iff.mp hopen).1
  rw [made_snoc] at hs
  rcases List.mem_append.mp hs with hs | hs
  · rw [closed_snoc hopen hs, t.mem_left i, t.left hbefore s hs]
    exact or_congr_right (and_iff_left ⟨s, hs, rfl⟩)
  · -- The number of a new subscription is not that of anybody who left.
    have hnew := Option.mem_toList.mp hs
    refine iff_of_false (fun hid => ?_) (open_of_made hopen hnew)
    obtain ⟨s', hs', hid⟩ := t.known_snoc i s.id hid
    have hlt : s'.id < (record ref inputs).live.bus.nextId :=
      (record_sound ref inputs).numbered.id_lt (record_attached ref inputs ▸ hs')
    rw [record_bus, hid, id_of_made hnew] at hlt
    exact Nat.lt_irrefl _ hlt

theorem tallies (ref : BusRef) (inputs : List Input) : Tallies ref inputs := by
  induction inputs using List.reverseRecOn with
  | nil => exact ⟨rfl, by cases ref <;> rfl, by simp [roll, Roll.run, Roll.empty], by simp [made, seen], fun _ _ => rfl⟩
  | append_singleton inputs i ih =>
    have hlength : (roll ref inputs).members.length + 1 = ((reached inputs).bus ref).nextId := by
      rw [nextId_reached, ih.members, List.length_map]
    have hended : (roll ref (inputs ++ [i])).ended = ((reached (inputs ++ [i])).bus ref).completed := by
      rw [completed_snoc, ← ih.ended, roll_snoc]
      rfl
    refine ⟨?_, hended, fun id hid => ?_, fun hopen s hs => ih.left_snoc (hended ▸ hopen) hs, fun n hn => ?_⟩
    · rw [roll_snoc, made_snoc, List.map_append, ← ih.members, Roll.step, hlength, joins?_eq]
      cases made? ref (reached inputs) i <;> rfl
    · obtain ⟨s, hs, hid⟩ := ih.known_snoc i id hid
      exact ⟨s, made_snoc ref inputs i ▸ List.mem_append_left _ hs, hid⟩
    · subst hn
      rw [published_snoc, taken?_alone, ← ih.published n rfl, ← ih.ended, roll_snoc]
      cases hdone : (roll (.alone n) inputs).ended <;> simp [Roll.step, hdone]

/-- The subscription that an input makes after a run. -/
def joined? (ref : BusRef) (inputs : List Input) (i : Input) : Option Member :=
  joins? ref (reached inputs) ((roll ref inputs).members.length + 1) i

theorem joined?_eq (ref : BusRef) (inputs : List Input) (i : Input) :
    joined? ref inputs i = (made? ref (reached inputs) i).map Member.of := by
  rw [joined?, (tallies ref inputs).members, List.length_map, ← nextId_reached, joins?_eq]

theorem mem_members {m : Member} : m ∈ (roll ref inputs).members ↔ ∃ s ∈ made ref inputs, Member.of s = m := by
  rw [(tallies ref inputs).members, List.mem_map]

/-- Those who are there are attached. -/
theorem present_eq (ref : BusRef) (inputs : List Input) :
    (roll ref inputs).present = ((reached inputs).bus ref).sinks.map Member.of := by
  have htallies := tallies ref inputs
  have law := record_sound ref inputs
  rw [← record_bus]
  cases hended : (roll ref inputs).ended with
  | true =>
    rw [(law.telling (record_bus ref inputs ▸ htallies.ended ▸ hended)).sinks]
    simp [Roll.present, hended]
  | false =>
    rw [law.sinks_eq (record_bus ref inputs ▸ htallies.ended ▸ hended), record_attached, Roll.present, hended,
      htallies.members, List.filter_map]
    refine congrArg (List.map Member.of) (List.filter_congr fun s hs => ?_)
    have hleft : (roll ref inputs).left.contains s.id = (record ref inputs).live.bus.closed.contains s.id := by
      rw [Bool.eq_iff_iff, List.contains_iff_mem, List.contains_iff_mem, htallies.left hended s hs, record_bus]
    simp only [Function.comp_apply, Bool.not_false, Bool.true_and]
    exact congrArg (!·) hleft

theorem attends_of_ended (hended : (roll ref inputs).ended = true) (id : Nat) : (roll ref inputs).attends id = false := by
  simp [Roll.attends, Roll.present, hended]

/-- Whoever is there is open on the bus. -/
theorem attends_eq (hended : (roll ref inputs).ended = false) {s : Sink Listener} (hs : s ∈ made ref inputs) :
    (roll ref inputs).attends s.id = !((reached inputs).bus ref).closed.contains s.id := by
  have hopen : (record ref inputs).live.bus.completed = false := by rw [record_bus, ← (tallies ref inputs).ended, hended]
  have hsink : (!((reached inputs).bus ref).closed.contains s.id) = true ↔ s ∈ ((reached inputs).bus ref).sinks := by
    rw [← record_bus, (record_sound ref inputs).sinks_eq hopen, record_attached, List.mem_filter]
    exact (and_iff_right hs).symm
  rw [Bool.eq_iff_iff, hsink, Roll.attends, present_eq, List.any_map, List.any_eq_true]
  constructor
  · rintro ⟨s', hs', hid⟩
    have hmade : s' ∈ made ref inputs := by
      rw [← record_bus] at hs'
      exact made_of_early ((record_sound ref inputs).numbered.sinks.subset hs')
    exact made_unique hmade hs (of_decide_eq_true hid) ▸ hs'
  · exact fun hs' => ⟨s, hs', decide_eq_true rfl⟩

end Runs

end Host
end ThingHost
