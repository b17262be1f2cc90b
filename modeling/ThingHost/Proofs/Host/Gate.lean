import ThingHost.Proofs.Exposed.Values
import ThingHost.Proofs.Host.Standing

/-! Whether a property may be observed is asked once, when somebody subscribes to its changes; from then on the
    subscription goes by the name. So it is told of no write to the property that was asked about unless this may be
    observed, but a property that is declared under the name at another time is not asked about. -/

namespace ThingHost
namespace Host

/-- Subscribing to the changes of the property of a name. -/
def observe (t : Nat) (name : Value) (client : Nat) (completes : Bool) : Input :=
  .operate (.subscribe (.topic t (.property name)) client completes)

/-- The subscription to the changes of a property that this makes. -/
def observer (id client : Nat) (completes : Bool) (property : String) : Sink Listener :=
  ⟨id, ExposedThing.screenBy fun e => .ok (e.isChangeOf property), completes, .client client⟩

/-- What the subscription of a number is handed of the events of a Thing, and which call each of them is announced by.
    A Thing's events are delivered in the order in which what they tell succeeded. -/
def heard (t id : Nat) (inputs : List Input) : List (Option Nat × Event) :=
  ((successes t inputs).zip (rounds (.own t) inputs)).filterMap fun a => if a.2.reaches id then some a.1 else none

/-- The call of a number is a write, and was made when the Thing had the property `i` under the name. -/
def WritesTo (t n : Nat) (i : Interaction) (inputs : List Input) : Prop :=
  ∃ earlier property v later x, inputs = during earlier t (.write property v) later ∧ callNumber earlier = n ∧
    (reached earlier).things[t]? = some x ∧ x.thing.findKind? .property property = some i

/-- What the subscription of a number hears in a run, if it was made to the changes of the property `p` when the Thing
    was `x`. -/
structure Hears (t id : Nat) (inputs : List Input) (x : ExposedThing) (p : Interaction) : Prop where
  all : (heard t id inputs).map (·.2) = received ⟨.own t, id⟩ inputs
  /-- It is told of nothing but writes to properties of the name. -/
  writes : ∀ a ∈ heard t id inputs, ∃ n v i, a = (some n, .propertyChange (.string p.name) v) ∧ WritesTo t n i inputs
  named : ∀ n e i, (some n, e) ∈ heard t id inputs → WritesTo t n i inputs → i.kind = .property ∧ i.name = p.name
  /-- Those that were declared when it was made may be observed, -/
  gated : ∀ n e i, (some n, e) ∈ heard t id inputs → WritesTo t n i inputs → i ∈ x.thing.interactions →
    i.observable = true
  /-- and so may all of them, if no name is used for a second property. -/
  once : ((history t inputs).filterMap Deed.property?).Nodup →
    ∀ n e i, (some n, e) ∈ heard t id inputs → WritesTo t n i inputs → i.observable = true

/-- What comes of asking for the changes of the property `p` of the Thing `x` after the run `earlier`: it is refused if
    the property may not be observed, and else what is heard is gated. -/
structure Gated (t : Nat) (earlier : List Input) (name : Value) (client : Nat) (completes : Bool) (later : List Input)
    (x : ExposedThing) (p : Interaction) : Prop where
  refused : p.observable = false → (reached earlier).step (observe t name client completes) =
    (reached earlier).returns (refuse (.notObservable p.name))
  made : p.observable = true → made? (.own t) (reached earlier) (observe t name client completes) =
    some (observer ((reached earlier).bus (.own t)).nextId client completes p.name)
  hears : p.observable = true →
    Hears t ((reached earlier).bus (.own t)).nextId (earlier ++ observe t name client completes :: later) x p

/-! ### What succeeded and what is delivered -/

section Runs
variable {t n : Nat} {inputs : List Input} {i : Interaction} {e : Event} {name : String}

theorem taken?_of_completed {ref : BusRef} {h : Host} (hdone : (h.bus ref).completed = true) (i : Input) :
    taken? ref h i = none := by
  unfold taken?
  split
  · exact if_pos hdone
  · rfl

/-- What a bus takes is what succeeds, up to its completion. -/
theorem published_of_successes (t : Nat) (inputs : List Input) :
    published (.own t) inputs <+: (successes t inputs).map (·.2) := by
  induction inputs using List.reverseRecOn with
  | nil => exact List.prefix_rfl
  | append_singleton inputs i ih =>
    rw [published, successes, seen_snoc, seen_snoc, List.map_append, ← published, ← successes]
    cases hopen : ((reached inputs).bus (.own t)).completed with
    | true =>
      rw [taken?_of_completed hopen]
      exact (List.append_nil _).symm ▸ ih.trans (List.prefix_append _ _)
    | false =>
      rw [published_eq hopen, taken?_eq hopen fun n c hc => call_there hc]
      cases success? t (reached inputs) i <;> exact List.prefix_rfl

/-- Deliveries are of what succeeded, one after another. -/
theorem zip_rounds {successes : List (Option Nat × Event)} {rounds : List (Bus.Round Listener)}
    (h : rounds.map (·.event) <+: successes.map (·.2)) :
    (successes.zip rounds).map (·.2) = rounds ∧ ∀ a ∈ successes.zip rounds, a.1.2 = a.2.event := by
  induction rounds generalizing successes with
  | nil => simp
  | cons r rounds ih =>
    cases successes with
    | nil => cases List.prefix_nil.mp h
    | cons s successes =>
      obtain ⟨hevent, hrest⟩ := List.cons_prefix_cons.mp h
      obtain ⟨hzip, hall⟩ := ih hrest
      refine ⟨congrArg (r :: ·) hzip, fun a ha => ?_⟩
      rcases List.mem_cons.mp ha with rfl | ha
      · exact hevent.symm
      · exact hall a ha

theorem rounds_of_successes (t : Nat) (inputs : List Input) :
    (rounds (.own t) inputs).map (·.event) <+: (successes t inputs).map (·.2) :=
  (rounds_ordered (.own t) inputs).trans (published_of_successes t inputs)

theorem heard_eq (t id : Nat) (inputs : List Input) : (heard t id inputs).map (·.2) = received ⟨.own t, id⟩ inputs := by
  obtain ⟨hzip, hevent⟩ := zip_rounds (rounds_of_successes t inputs)
  have hfilter : ((rounds (.own t) inputs).filter (·.reaches id)).map (·.event) =
      (rounds (.own t) inputs).filterMap fun r => if r.reaches id then some r.event else none := by
    rw [← List.filterMap_eq_map, List.filterMap_filter]
    rfl
  rw [received_rounds, hfilter, ← hzip, heard, List.map_filterMap, List.filterMap_map]
  refine List.filterMap_congr fun a ha => ?_
  rw [Function.comp_apply, ← hevent a ha]
  cases a.2.reaches id <;> rfl

theorem mem_heard {id : Nat} {a : Option Nat × Event} (ha : a ∈ heard t id inputs) :
    a ∈ successes t inputs ∧ ∃ r ∈ rounds (.own t) inputs, r.reaches id = true ∧ r.event = a.2 := by
  obtain ⟨⟨a', r⟩, hmem, heq⟩ := List.mem_filterMap.mp ha
  obtain ⟨-, hevent⟩ := zip_rounds (rounds_of_successes t inputs)
  cases hreach : r.reaches id with
  | false => simp [hreach] at heq
  | true =>
    obtain rfl : a' = a := by simpa [hreach] using heq
    obtain ⟨hsuccess, hround⟩ := List.of_mem_zip hmem
    exact ⟨hsuccess, r, hround, hreach, (hevent _ hmem).symm⟩

/-! ### Where a change comes from -/

/-- Only a write to the property of a name announces a change of it. -/
theorem write_of_announcement {ask : Ask} {v : Value} (he : announcement? ask v = some e)
    (hchange : e.isChangeOf name = true) : ∃ w, ask = .write (.string name) w ∧ e = .propertyChange (.string name) w := by
  cases ask with
  | read property => cases he
  | invoke action arguments =>
    cases he
    cases hchange
  | write property w =>
    cases he
    cases property with
    | string s =>
      obtain rfl : s = name := by simpa [Event.isChangeOf, Event.propertyChange, Members.get?] using hchange
      exact ⟨w, rfl, rfl⟩
    | _ => simp [Event.isChangeOf, Members.get?] at hchange

theorem write_of_success {what : Option Nat} (hs : (what, e) ∈ successes t inputs) (hchange : e.isChangeOf name = true) :
    ∃ n v i, what = some n ∧ e = .propertyChange (.string name) v ∧ WritesTo t n i inputs := by
  obtain ⟨a, j, b, rfl, hj⟩ := (mem_seen (success? t)).mp hs
  cases what with
  | none =>
    cases succeeds hj with
    | added s parsed description => cases hchange
    | removed s => cases hchange
    | emitted => cases hchange
  | some n =>
    obtain ⟨earlier, ask, later, x, i, hsplit, hn, hx, hi, v, he⟩ := found_of_success hj
    obtain ⟨w, rfl, rfl⟩ := write_of_announcement he hchange
    exact ⟨n, w, i, rfl, rfl, earlier, .string name, w, later ++ j :: b, x, by rw [during_append, hsplit], hn, hx, hi⟩

/-- The write that announced a change of the property of a name was made to a property of that name. -/
theorem name_of_write (hs : (some n, e) ∈ successes t inputs) (hchange : e.isChangeOf name = true)
    (hw : WritesTo t n i inputs) : i.kind = .property ∧ i.name = name := by
  obtain ⟨earlier, property, v, later, x, rfl, rfl, hx, hi⟩ := hw
  obtain ⟨c, w, hc, -, -, he, -⟩ := mem_successes.mp hs
  obtain ⟨p, hp⟩ := call_made hx (.write property v)
  obtain ⟨p', hkept⟩ := call_kept hp later
  rw [List.append_assoc, List.singleton_append, ← during, hc] at hkept
  obtain rfl := Option.some.inj hkept
  obtain ⟨w', hask, -⟩ := write_of_announcement he hchange
  obtain ⟨rfl, -⟩ := Ask.write.inj hask
  obtain ⟨-, hkind⟩ := ExposedThing.mem_of_findKind? hi
  exact ⟨hkind, (Value.string.inj (ExposedThing.name_of_findKind? hi)).symm⟩

/-- A property that is found at some moment was declared before. -/
theorem declared_of_found {earlier : List Input} {x : ExposedThing} {kind : InteractionKind} {v : Value}
    (hx : (reached earlier).things[t]? = some x) (hi : x.thing.findKind? kind v = some i) (more : List Input) :
    ∃ definition handler, .declared i definition handler ∈ history t (earlier ++ more) := by
  obtain ⟨definition, handler, hd⟩ := (past_reached hx).declared.there i (ExposedThing.mem_of_findKind? hi).1
  exact ⟨definition, handler, (history_grows t earlier more).subset hd⟩

end Runs

/-! ### The law -/

section Law
variable {earlier later : List Input} {t client : Nat} {completes : Bool} {name : Value} {x : ExposedThing} {p : Interaction}

theorem made_of_observe (hx : (reached earlier).things[t]? = some x) (hp : x.thing.findKind? .property name = some p)
    (hobs : p.observable = true) (client : Nat) (completes : Bool) :
    made? (.own t) (reached earlier) (observe t name client completes) =
      some (observer ((reached earlier).bus (.own t)).nextId client completes p.name) := by
  have hmove : moveOn (.own t) (reached earlier) (observe t name client completes) = some
      (.attach (ExposedThing.screenBy fun e => .ok (e.isChangeOf p.name)) completes (.client client)) := by
    simp [moveOn, on_eq_some, move?, asks?, observe, hx, ExposedThing.screen, hp, hobs]
  rw [made?, hmove]
  rfl

/-- Whatever an observer hears is a change of the property of its name. -/
theorem change_of_heard {id : Nat} {inputs : List Input} {property : String}
    (hmade : observer id client completes property ∈ made (.own t) inputs) {a : Option Nat × Event}
    (ha : a ∈ heard t id inputs) : a ∈ successes t inputs ∧ a.2.isChangeOf property = true := by
  obtain ⟨hsuccess, r, hr, hreach, hevent⟩ := mem_heard ha
  have hwants := (record_sound (.own t) inputs).wants_of_reaches (record_attached _ _ ▸ hmade) hr hreach
  exact ⟨hsuccess, by simpa [hevent] using (wants_iff _ _ _ _ r.event).mp hwants⟩

theorem hears_of_observable (hx : (reached earlier).things[t]? = some x)
    (hp : x.thing.findKind? .property name = some p) (hobs : p.observable = true) (client : Nat) (completes : Bool)
    (later : List Input) :
    Hears t ((reached earlier).bus (.own t)).nextId (earlier ++ observe t name client completes :: later) x p := by
  generalize hinputs : earlier ++ observe t name client completes :: later = inputs
  have hmade : observer ((reached earlier).bus (.own t)).nextId client completes p.name ∈ made (.own t) inputs :=
    (mem_seen _).mpr ⟨earlier, _, later, hinputs.symm, made_of_observe hx hp hobs client completes⟩
  have hnamed : ∀ n e i, (some n, e) ∈ heard t ((reached earlier).bus (.own t)).nextId inputs → WritesTo t n i inputs →
      i.kind = .property ∧ i.name = p.name := by
    intro n e i ha hw
    obtain ⟨hsuccess, hchange⟩ := change_of_heard hmade ha
    exact name_of_write hsuccess hchange hw
  obtain ⟨hthere, hkind⟩ := ExposedThing.mem_of_findKind? hp
  refine ⟨heard_eq t _ _, fun a ha => ?_, hnamed, fun n e i ha hw hi => ?_, fun hnodup n e i ha hw => ?_⟩
  · obtain ⟨hsuccess, hchange⟩ := change_of_heard hmade ha
    obtain ⟨n, v, i, hwhat, hevent, hw⟩ := write_of_success hsuccess hchange
    exact ⟨n, v, i, Prod.ext hwhat hevent, hw⟩
  · obtain ⟨-, hname⟩ := hnamed n e i ha hw
    rw [(tidy_reached hx).eq_of_name hi hthere hname]
    exact hobs
  · -- With no name used twice, the property that was written to is the one that was asked about.
    obtain ⟨hkind', hname⟩ := hnamed n e i ha hw
    obtain ⟨d, handler, hd⟩ := declared_of_found hx hp (observe t name client completes :: later)
    obtain ⟨earlier', property, v, later', x', hsplit, -, hx', hi⟩ := hw
    obtain ⟨d', handler', hd'⟩ := declared_of_found hx' hi (.operate (.call t (.write property v)) :: later')
    rw [hinputs] at hd
    rw [← during, ← hsplit] at hd'
    rw [Deed.eq_of_property hnodup hd' hd hkind' hkind hname]
    exact hobs

/-- Whatever is done with a Thing before and after somebody asks for the changes of a property, what it hears is of
    properties that may be observed, if they were declared when it asked. -/
theorem gate_law (hx : (reached earlier).things[t]? = some x) (hp : x.thing.findKind? .property name = some p)
    (client : Nat) (completes : Bool) (later : List Input) : Gated t earlier name client completes later x p := by
  refine ⟨fun hobs => ?_, fun hobs => made_of_observe hx hp hobs client completes,
    fun hobs => hears_of_observable hx hp hobs client completes later⟩
  simp [observe, step, operate, subscribe, withThing, hx, ExposedThing.screen, hp, hobs]

/-- A valve that may be observed when somebody asks for its changes, and may not when it is declared anew. -/
def valve : List Input :=
  [ .operate (.newThing 0 "valve" "Valve" none),
    .operate (.add 0 .property (.string "open") .undefined none) ]

def renewal : List Input :=
  [ .operate (.call 0 (.write (.string "open") (.bool true))),
    .tick,
    .reply (.done .undefined),
    .operate (.remove 0 .property (.string "open")),
    .operate (.add 0 .property (.string "open") (.object [("observable", .bool false)]) none),
    .operate (.call 0 (.write (.string "open") (.bool false))),
    .tick,
    .reply (.done .undefined) ]

theorem valve_gated : ∃ x p, (reached valve).things[0]? = some x ∧
    x.thing.findKind? .property (.string "open") = some p ∧ p.observable = true ∧
    Gated 0 valve (.string "open") 3 true renewal x p :=
  ⟨_, _, by rfl, by rfl, by rfl, gate_law (by rfl) (by rfl) 3 true renewal⟩

/-- The second write is to a property that may not be observed, and is heard. -/
theorem unobservable_heard : let inputs := valve ++ observe 0 (.string "open") 3 true :: renewal
    ((reached (inputs.take 8)).things[0]?.bind (·.thing.findKind? .property (.string "open"))).map (·.observable) =
      some false ∧
    inputs = during (inputs.take 8) 0 (.write (.string "open") (.bool false)) (inputs.drop 9) ∧
    callNumber (inputs.take 8) = 1 ∧
    heard 0 1 inputs = [(some 0, .propertyChange (.string "open") (.bool true)),
      (some 1, .propertyChange (.string "open") (.bool false))] :=
  ⟨by rfl, by rfl, by rfl, by rfl⟩

end Law

end Host
end ThingHost
