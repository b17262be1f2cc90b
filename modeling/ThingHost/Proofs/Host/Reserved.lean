import ThingHost.Proofs.Host.Forwarding
import ThingHost.Proofs.Host.Past
import ThingHost.Proofs.Host.Production

/-! The names of the notifications are reserved. However a Thing is made, and whatever is declared, withdrawn and
    declared again on it, no event of it has one of them; a property or an action may. So the name of an event that
    a Thing announces tells whether it is a notification, and which one. -/

namespace ThingHost

/-- The notification that a name is that of, if there is one. -/
def Notification.named? (name : Value) : Option Notification := name.asText?.bind ofName?

/-- The notification that an event is, if it is one. -/
def Event.about? : Event → Option Notification
  | .notification about _ => some about
  | .user .. => none

/-- It is an event, and its name is that of a notification. -/
def Interaction.shadows (i : Interaction) : Bool := i.kind = .event && isReserved i.name

/-- An interaction that shadows a notification is declared. -/
def Deed.shadows : Deed → Bool
  | .declared i .. => i.shadows
  | _ => false

theorem isReserved_iff {name : String} : isReserved name = false ↔ Notification.ofName? name = none := by
  simp [isReserved, Notification.ofName?]

theorem named?_name (about : Notification) : Notification.named? (.string about.name) = some about := by
  cases about <;> decide

theorem type_of_notification (about : Notification) : about.name ≠ "user" := by
  cases about <;> decide

namespace ExposedThing

section Shadowing
variable {x y : ExposedThing} {deeds : List Deed}

theorem not_shadows_of_check {kind : InteractionKind} {s : String} (h : checkReserved kind (.string s) = .ok ())
    (serial : Nat) (parsed : Value) : (interactionOf serial kind s parsed).shadows = false := by
  rw [Interaction.shadows, interactionOf_kind]
  cases kind with
  | event =>
    simp only [checkReserved] at h
    split at h
    · cases h
    · rename_i hfree
      simpa [interactionOf] using hfree
  | _ => rfl

/-- What is declared now was declared before, or is declared by what is done. -/
theorem Does.unshadowed (h : x.Does deeds y) (hx : ∀ i ∈ x.thing.interactions, i.shadows = false)
    (hd : ∀ d ∈ deeds, d.shadows = false) : ∀ i ∈ y.thing.interactions, i.shadows = false := by
  cases h with
  | declared parsed handler fresh =>
    intro i hi
    rcases List.mem_append.mp hi with hi | hi
    · exact hx i hi
    · obtain rfl := List.mem_singleton.mp hi
      exact hd _ List.mem_cons_self
  | withdrawn there => exact fun i hi => hx i (List.mem_of_mem_filter hi)
  | _ => exact hx

theorem Past.unshadowed (h : Past deeds x) (hd : ∀ d ∈ deeds, d.shadows = false) :
    ∀ i ∈ x.thing.interactions, i.shadows = false := by
  induction h with
  | new servient id name description =>
    intro i hi
    cases hi
  | does past deed bus ih =>
    exact deed.unshadowed (ih fun d h => hd d (List.mem_append_left _ h)) fun d h => hd d (List.mem_append_right _ h)

end Shadowing

end ExposedThing

namespace Host

/-! ### What is declared -/

section Declared
variable {h : Host} {t : Nat}

theorem add_unshadowed {x : ExposedThing} {kind : InteractionKind} {name definition : Value} {handler : Option Nat}
    (hx : h.things[t]? = some x) (hclean : clean (h.operate (.add t kind name definition handler)) = true) {d : Deed}
    (hd : x.deed? (.add t kind name definition handler) = some d) : d.shadows = false := by
  obtain ⟨y, e, hr⟩ := added_of_clean hx hclean
  obtain ⟨s, parsed, rfl, hparsed, hfree, -⟩ := ExposedThing.add_eq_ok.mp hr
  simp only [ExposedThing.deed?, Value.asText?, hparsed, Option.bind_some, Option.map_some, Option.some.injEq] at hd
  rw [← hd]
  exact ExposedThing.not_shadows_of_check hfree _ _

/-- A Thing is made from a definition only if none of its events has a reserved name. -/
theorem produce_unshadowed {servient : Nat} {definition parsed : Value} {freshId : String}
    (hp : Schema.check thingSchema definition = .ok parsed)
    (hmade : h.things.length < (h.produce servient definition freshId).1.things.length) :
    ∀ d ∈ declarations parsed, reservesName d = false := by
  cases hs : h.servients[servient]? with
  | none => simp [produce, hs] at hmade
  | some s =>
    rcases produce_cases hs definition freshId with ⟨issues, -, hstep⟩ | ⟨parsed', id, -, -, ⟨-, hstep⟩ | ⟨-, lines, hstep⟩⟩
    · exact absurd hmade (by simp [hstep, returns])
    · exact absurd hmade (by simp [hstep, returns])
    · cases hr : reservedEvent? definition with
      | some name => exact absurd hmade (by simp [hstep, hr])
      | none =>
        rw [← reservedEvent?_eq hp, Option.map_eq_none_iff] at hr
        intro d hd
        simpa using List.find?_eq_none.mp hr d hd

theorem deeds_unshadowed (h : Host) (t : Nat) (i : Input) : ∀ d ∈ deeds t h i, d.shadows = false := by
  intro d hd
  rcases deeds_cases hd with ⟨_, _, _, parsed, -, hp, hmade, hd⟩ | ⟨op, x, -, hop, hclean, hx, hdeed⟩
  · obtain ⟨kind, name, definition, hn, serial, own, rfl⟩ := ExposedThing.mem_declaredFrom hd
    have hfree := produce_unshadowed (Schema.parse_eq_ok.mp hp) hmade _ hn
    rw [Deed.shadows, Interaction.shadows, interactionOf_kind]
    exact hfree
  · cases op with
    | add t' kind name definition handler =>
      obtain rfl := Option.some.inj hop
      exact add_unshadowed hx hclean hdeed
    | remove t' kind name =>
      obtain ⟨i, -, rfl⟩ := Option.map_eq_some_iff.mp hdeed
      rfl
    | setHandler t' kind handler name =>
      cases hdeed
      rfl
    | call t' ask =>
      cases ask with
      | write property v =>
        obtain ⟨i, -, rfl⟩ := Option.map_eq_some_iff.mp hdeed
        rfl
      | _ => cases hdeed
    | _ => cases hop

theorem unshadowed_reached {inputs : List Input} {x : ExposedThing} (hx : (reached inputs).things[t]? = some x) :
    ∀ i ∈ x.thing.interactions, i.shadows = false := by
  refine (past_reached hx).unshadowed fun d hd => ?_
  obtain ⟨ds, hds, hd⟩ := List.mem_flatten.mp hd
  obtain ⟨a, i, b, -, hi⟩ := (mem_seen _).mp hds
  cases hi
  exact deeds_unshadowed _ _ _ d hd

end Declared

/-! ### What is announced -/

/-- What is announced while interactions are declared one after another on a Thing that is being made. -/
def announcements (x : ExposedThing) : List (InteractionKind × String × Value) → List Event
  | [] => []
  | (kind, name, definition) :: rest =>
    match x.add kind (.string name) definition none with
    | .error _ => []
    | .ok (x, e) => e :: announcements { x with bus := (x.bus.publish e).1 } rest

/-- An event that an application emits, and the Thing declares it under a name that is not reserved; or one whose name
    is its type. -/
def Sealed (x : ExposedThing) (e : Event) : Prop :=
  (e.typeName = "user" ∧ ∃ i ∈ x.thing.interactions, i.kind = .event ∧ e.name = .string i.name ∧ isReserved i.name = false) ∨
    (e.typeName ≠ "user" ∧ e.name = .string e.typeName)

section Announced
variable {t : Nat} {inputs : List Input}

theorem sealed_of_notification (x : ExposedThing) (about : Notification) (data : Fields) :
    Sealed x (.notification about data) := .inr ⟨type_of_notification about, rfl⟩

theorem sealed_of_publish {i : Input} {e : Event} (hm : moveOn (.own t) (reached inputs) i = some (.publish e)) :
    ∃ x, (reached inputs).things[t]? = some x ∧ Sealed x e := by
  obtain ⟨b, hb⟩ := Option.isSome_iff_exists.mp (move?_there (grounded_reached inputs) (on_eq_some.mp hm))
  obtain ⟨x, hx, -⟩ := Option.map_eq_some_iff.mp hb
  refine ⟨x, hx, ?_⟩
  cases asked_of_move hm with
  | announced _ announces =>
    cases announces with
    | notification => exact sealed_of_notification x _ _
    | @user y name data i there declared =>
      rw [hx] at there
      cases there
      obtain ⟨hi, hkind⟩ := ExposedThing.mem_of_findKind? declared
      have hfree := unshadowed_reached hx i hi
      rw [Interaction.shadows, hkind] at hfree
      exact .inl ⟨rfl, i, hi, hkind, ExposedThing.name_of_findKind? declared, by simpa using hfree⟩

/-- The name of what is announced tells whether it is a notification. -/
theorem named?_of_sealed {x : ExposedThing} {e : Event} (h : Sealed x e) : Notification.named? e.name = e.about? := by
  cases e with
  | notification about data => exact named?_name about
  | user name data =>
    rcases h with ⟨-, i, -, -, hname, hfree⟩ | ⟨htype, -⟩
    · obtain rfl : name = .string i.name := hname
      exact isReserved_iff.mp hfree
    · exact absurd rfl htype

theorem name_of_announcements (x : ExposedThing) (ds : List (InteractionKind × String × Value)) :
    ∀ e ∈ announcements x ds, e.typeName ≠ "user" ∧ e.name = .string e.typeName := by
  induction ds generalizing x with
  | nil =>
    intro e he
    cases he
  | cons d ds ih =>
    obtain ⟨kind, name, definition⟩ := d
    intro e he
    simp only [announcements] at he
    split at he
    · cases he
    · rename_i hadd
      obtain ⟨s, parsed, -, -, -, -, -, rfl⟩ := ExposedThing.add_eq_ok.mp hadd
      rcases List.mem_cons.mp he with rfl | he
      · exact ⟨type_of_notification .descriptionChange, rfl⟩
      · exact ih _ e he

/-- Nothing else happens on the bus of a Thing that is being made. -/
theorem bus_of_declareAll {x y : ExposedThing} {ds : List (InteractionKind × String × Value)}
    (hy : (declareAll x ds).1 = .ok y) : y.bus = (announcements x ds).foldl (fun b e => (b.publish e).1) x.bus := by
  induction ds generalizing x with
  | nil =>
    cases hy
    rfl
  | cons d ds ih =>
    obtain ⟨kind, name, definition⟩ := d
    simp only [declareAll, announcements] at hy ⊢
    rcases hr : x.add kind (.string name) definition none with e | ⟨x', e⟩
    · rw [hr] at hy
      cases hy
    · rw [hr] at hy
      rw [← ExposedThing.add_bus hr]
      exact ih hy

theorem named?_of_received {id : Nat} {e : Event} (he : e ∈ received ⟨.own t, id⟩ inputs) :
    Notification.named? e.name = e.about? := by
  have hround : e ∈ (rounds (.own t) inputs).map (·.event) := by
    rw [received_rounds] at he
    exact (List.filter_sublist.map _).subset he
  obtain ⟨a, i, b, -, htaken⟩ := (mem_seen _).mp ((rounds_ordered (.own t) inputs).subset hround)
  simp only [taken?] at htaken
  split at htaken
  · rename_i hmove
    split at htaken
    · cases htaken
    · cases htaken
      obtain ⟨x, -, hsealed⟩ := sealed_of_publish hmove
      exact named?_of_sealed hsealed
  · cases htaken

end Announced

/-! ### The law -/

/-- A Thing's notifications are told by their names. -/
structure Reserves (t : Nat) (inputs : List Input) : Prop where
  /-- No event of the Thing has a reserved name. -/
  declared : ∀ x i, (reached inputs).things[t]? = some x → i ∈ x.thing.interactions → i.kind = .event →
    isReserved i.name = false
  /-- What is published on its bus is an event that it declares at that moment, or has the name of its type; -/
  entered : ∀ a i b e, inputs = a ++ i :: b → moveOn (.own t) (reached a) i = some (.publish e) →
    ∃ x, (reached a).things[t]? = some x ∧ Sealed x e
  /-- and what is announced while a Thing is made from a definition has the name of its type. -/
  made : ∀ x ds, (∀ e ∈ announcements x ds, e.typeName ≠ "user" ∧ e.name = .string e.typeName) ∧
    ∀ y, (declareAll x ds).1 = .ok y → y.bus = (announcements x ds).foldl (fun b e => (b.publish e).1) x.bus
  /-- Hence the name tells everybody who is handed an event whether it is a notification, and which one, -/
  told : ∀ id, ∀ e ∈ received ⟨.own t, id⟩ inputs, Notification.named? e.name = e.about?
  /-- and everybody who reads the message that a relay hands to its broker. -/
  messages : ∀ s ∈ Host.made (.own t) inputs, ∀ broker thing, s.owner = .relay broker thing → ∀ a i b e,
    inputs = a ++ i :: b → handed? ⟨.own t, s.id⟩ (reached a) i = some e →
      let message := Relay.message (.string thing) e (reached a).clock
      (∃ n, .callBroker broker n "thing_events" (Json.write message) ∈ ((reached a).step i).2) ∧
        Notification.named? (message.member "name") = e.about?

/-- The names of notifications are reserved, whatever is done with a host. -/
theorem reserved_law (t : Nat) (inputs : List Input) : Reserves t inputs where
  declared x i hx hi hkind := by
    have hfree := unshadowed_reached hx i hi
    rw [Interaction.shadows, hkind] at hfree
    simpa using hfree
  entered a i b e _ hm := sealed_of_publish hm
  made x ds := ⟨name_of_announcements x ds, fun _ hy => bus_of_declareAll hy⟩
  told id e he := named?_of_received he
  messages s hs broker thing howner a i b e hsplit hhanded := by
    subst hsplit
    obtain ⟨⟨before, hout, -⟩, -⟩ := message_of_handed hs howner hhanded
    have htold : e ∈ received ⟨.own t, s.id⟩ (a ++ i :: b) := (mem_seen _).mpr ⟨a, i, b, rfl, hhanded⟩
    refine ⟨⟨(reached a).postings.length, ?_⟩, named?_of_received htold⟩
    rw [hout]
    exact List.mem_append_right _ List.mem_cons_self

/-- A property has the name of a notification for a while. -/
def gate : List Input :=
  [ .operate (.newThing 0 "gate" "Gate" none),
    .operate (.add 0 .property (.string "propertychange") .undefined none),
    .operate (.remove 0 .property (.string "propertychange")) ]

/-- No event is declared in its place. -/
example : ((reached gate).step (.operate (.add 0 .event (.string "propertychange") .undefined none))).2 =
    [.returned (refuse (nameReserved "propertychange"))] := by
  rfl

end Host
end ThingHost
