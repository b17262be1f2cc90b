import ThingHost.Proofs.Exposed.Description
import ThingHost.Proofs.Host.Production
import ThingHost.Proofs.Host.Registry
import ThingHost.Proofs.Host.Standing

/-! A Thing that was produced is what its definition says. Each declaration has become an interaction, in the order of
    the definition and with all that was given for it; the values can be read at once, the document tells the same,
    and actions wait for a handler. Of a data description all is kept but the one key that no object has. -/

namespace ThingHost

/-! ### Handlers of invocations -/

/-- A handler is set that answers invocations. -/
def Deed.setsInvoke : Deed → Bool
  | .declared _ _ handler => handler.isSome
  | .handled kind .. => kind = .invoke
  | _ => false

theorem ExposedThing.Does.invoke {x y : ExposedThing} {deeds : List Deed} (h : x.Does deeds y)
    (hnone : ∀ d ∈ deeds, d.setsInvoke = false) (i : Option Nat) :
    y.handlers.get .invoke i = x.handlers.get .invoke i := by
  cases h with
  | declared parsed handler fresh =>
    have hhandler := hnone _ List.mem_cons_self
    cases handler with
    | none => rfl
    | some handler => cases hhandler
  | handledAll kind handler =>
    have hkind : kind ≠ .invoke := by simpa [Deed.setsInvoke] using hnone _ List.mem_cons_self
    cases i with
    | none => simp [Handlers.get, Handlers.set, Ne.symm hkind]
    | some i => simp [Handlers.get, Handlers.set, Handlers.own?, Ne.symm hkind]
  | handledOne kind handler there =>
    have hkind : kind ≠ .invoke := by simpa [Deed.setsInvoke] using hnone _ List.mem_cons_self
    cases i with
    | none => rfl
    | some i =>
      rw [Handlers.get, Handlers.own?_set_some, if_neg fun h => hkind h.1]
      rfl
  | _ => rfl

namespace Host

/-! ### What is to be translated -/

/-- What the section of a definition under a key declares; the one name that no object has is never declared. -/
def declaredIn (definition : Value) (key : String) (kind : InteractionKind) : List (InteractionKind × String × Value) :=
  ((definition.member key).fields.filter (·.1 ≠ "__proto__")).map fun d => (kind, d.1, d.2)

/-- What a definition declares. -/
def declaredBy (definition : Value) : List (InteractionKind × String × Value) :=
  declaredIn definition "properties" .property ++ declaredIn definition "actions" .action ++
    declaredIn definition "events" .event

/-- An interaction is what its declaration says. -/
structure Renders (d : InteractionKind × String × Value) (i : Interaction) : Prop where
  name : i.name = d.2.1
  label : i.label = d.2.2.text? "label"
  affordance : i.affordance = offered d.2.2 d.1

/-- A description document says what a definition says. -/
structure Tells (document definition : Value) (id : String) : Prop where
  id : document.member? "id" = some (.string id)
  name : document.member? "name" = some (definition.member "name")
  description : document.member? "description" = (definition.text? "description").map .string
  /-- Every section names what is declared of its kind, and nothing else. -/
  sections : ∀ kind, (Members.keys (document.member (sectionKey kind)).fields).Perm
    (((declaredBy definition).filter (·.1 = kind)).map (·.2.1))
  entries : ∀ d ∈ declaredBy definition, ∃ entry,
    Members.get? d.2.1 (document.member (sectionKey d.1)).fields = some (.object entry) ∧
    ∀ key, Members.get? key entry = (offered d.2.2 d.1).documented (d.2.2.text? "label") key

/-- The host answers a call itself, and settles it with an outcome once its turn has come. -/
structure SettlesWith (earlier : List Input) (t : Nat) (ask : Ask) (later : List Input) (o : Outcome) : Prop where
  quiet : invocations (callNumber earlier) (during earlier t ask later) = []
  settled : settlements (callNumber earlier) (during earlier t ask later) <+: [o]
  settles : (reached (during earlier t ask later)).stack = [] → (reached (during earlier t ask later)).queue = [] →
    settlements (callNumber earlier) (during earlier t ask later) = [o]

section Statement
variable (earlier : List Input) (servient : Nat) (definition : Value) (freshId : String)

/-- A run at the end of which a Thing is produced. -/
def produced : List Input := earlier ++ [.operate (.produce servient definition freshId)]

/-- The Thing `x` with the number `t` was produced from a definition. -/
structure Translates (t : Nat) (x : ExposedThing) : Prop where
  there : (reached (produced earlier servient definition freshId)).things[t]? = some x
  id : x.id = (definition.text? "id").getD freshId
  interactions : List.Forall₂ Renders (declaredBy definition) x.thing.interactions
  /-- Its properties have the values that they were declared with. -/
  reads : ∀ d ∈ declaredBy definition, d.1 = .property → ∀ later,
    SettlesWith (produced earlier servient definition freshId) t (.read (.string d.2.1)) later
      (.ok (d.2.2.member "value"))
  document : Tells x.thing.toDescription definition x.id
  /-- As long as a handler is neither set for one of its actions nor for all, nobody answers an invocation. -/
  unanswered : ∀ i ∈ x.thing.interactions, i.kind = .action → ∀ more,
    .withdrawn i ∉ meanwhile t (produced earlier servient definition freshId) more →
    (∀ d ∈ meanwhile t (produced earlier servient definition freshId) more, d.setsInvoke = false) →
    ∀ arguments later, SettlesWith (produced earlier servient definition freshId ++ more) t
      (.invoke (.string i.name) arguments) later (refuse .undefinedActionHandler)
  /-- It is registered last, and it is not enabled. -/
  registered : ∃ s, (reached earlier).servients[servient]? = some s ∧ s.isEnabled x.id = false ∧
    (reached (produced earlier servient definition freshId)).servients =
      (reached earlier).servients.set servient { s with registered := s.registered ++ [(x.id, t)] }

end Statement

/-! ### What is made -/

section Product
variable {servient : Nat} {id : String} {definition parsed : Value}

theorem declaredBy_eq (definition : Value) :
    declaredBy definition = (declarations definition).filter (·.2.1 ≠ Members.forbidden) := by
  have hsection : ∀ kind, declaredIn definition (sectionKey kind) kind =
      ((definition.member (sectionKey kind)).fields.map fun d => (kind, d.1, d.2)).filter
        (·.2.1 ≠ Members.forbidden) := fun kind => by
    rw [declaredIn, List.filter_map]
    rfl
  simp only [declarations, InteractionKind.all, List.flatMap_cons, List.flatMap_nil, List.append_nil, List.filter_append,
    ← hsection]
  exact List.append_assoc ..

theorem name_of_declared {d : InteractionKind × String × Value} (hd : d ∈ declaredBy definition) :
    d.2.1 ≠ Members.forbidden := by
  rw [declaredBy_eq] at hd
  exact of_decide_eq_true (List.mem_filter.mp hd).2

/-- The declarations come out one by one. -/
theorem becomes_of_check (hp : Schema.check thingSchema definition = .ok parsed) :
    List.Forall₂ Becomes (declaredBy definition) (declarations parsed) :=
  declaredBy_eq definition ▸ declarations_of_check hp

theorem offered_kind (definition : Value) (kind : InteractionKind) : (offered definition kind).kind = kind := by
  cases kind <;> rfl

/-- What a declaration has become, and the value that it came with. -/
theorem renders_of_becomes {a b : InteractionKind × String × Value} (h : Becomes a b) (serial : Nat) :
    Renders a (interactionOf serial b.1 b.2.1 b.2.2) ∧
      ExposedThing.initialValue b = ExposedThing.initialValue a := by
  obtain ⟨kind, name, given⟩ := a
  obtain ⟨kind', name', result⟩ := b
  obtain ⟨hkind, hname, -, hcheck⟩ := h
  dsimp only at hkind hname hcheck
  subst hkind hname
  refine ⟨⟨rfl, label_of_check hcheck, affordanceOf_of_check hcheck⟩, ?_⟩
  cases kind' with
  | property => exact value_of_check hcheck
  | _ => rfl

theorem productOf_interactions (servient : Nat) (id : String) (parsed : Value) :
    (productOf servient id parsed).thing.interactions =
      (declarations parsed).zipIdx.map fun d => interactionOf d.2 d.1.1 d.1.2.1 d.1.2.2 := by
  rw [productOf, ExposedThing.made_thing]
  rfl

/-- The declarations come one by one into the list of interactions. -/
theorem interactions_of_check (hp : Schema.check thingSchema definition = .ok parsed) (servient : Nat) (id : String) :
    List.Forall₂ Renders (declaredBy definition) (productOf servient id parsed).thing.interactions := by
  have hrow : ∀ (n : Nat) (as bs : List (InteractionKind × String × Value)), List.Forall₂ Becomes as bs →
      List.Forall₂ Renders as ((bs.zipIdx n).map fun d => interactionOf d.2 d.1.1 d.1.2.1 d.1.2.2) := by
    intro n as bs h
    induction h generalizing n with
    | nil => exact .nil
    | cons hab _ ih =>
      rw [List.zipIdx_cons, List.map_cons]
      exact .cons (renders_of_becomes hab n).1 (ih (n + 1))
  rw [productOf_interactions]
  exact hrow 0 _ _ (becomes_of_check hp)

/-- What a declaration has become is in the list, and has the value that it came with. -/
theorem product_of_declared (servient : Nat) (id : String) (hp : Schema.check thingSchema definition = .ok parsed)
    {d : InteractionKind × String × Value} (hd : d ∈ declaredBy definition) :
    ∃ i ∈ (productOf servient id parsed).thing.interactions, Renders d i ∧
      (productOf servient id parsed).store.get i.serial = ExposedThing.initialValue d := by
  obtain ⟨n, hn, rfl⟩ := List.getElem_of_mem hd
  have hall := becomes_of_check hp
  have hlen : n < (declarations parsed).length := hall.length_eq ▸ hn
  have hbecomes : Becomes (declaredBy definition)[n] (declarations parsed)[n] := hall.get hn hlen
  obtain ⟨hrenders, hvalue⟩ := renders_of_becomes hbecomes n
  refine ⟨_, ?_, hrenders, ?_⟩
  · rw [productOf_interactions]
    exact List.mem_map.mpr ⟨((declarations parsed)[n], n), List.mem_zipIdx_iff_getElem?.mpr (List.getElem?_eq_getElem hlen), rfl⟩
  · have hstored : ∀ e ∈ (ExposedThing.new servient
        (.new id ((parsed.text? "name").getD "") (parsed.text? "description"))).store.entries, e.1 < 0 := by
      intro e he
      cases he
    have hstore : (productOf servient id parsed).store.get n =
        ((declarations parsed)[n]?.map ExposedThing.initialValue).getD .undefined :=
      ExposedThing.made_store hstored n
    show (productOf servient id parsed).store.get n = _
    rw [hstore, List.getElem?_eq_getElem hlen]
    exact hvalue

/-- Nobody but the host answers a call to what was just made. -/
theorem productOf_handlers (servient : Nat) (id : String) (parsed : Value) (kind : CallKind) (i : Option Nat) :
    (productOf servient id parsed).handlers.get kind i = .standard := by
  rw [productOf, ExposedThing.made_handlers]
  cases i <;> rfl

theorem tells_of_check (hp : Schema.check thingSchema definition = .ok parsed)
    (hnames : ((productOf servient id parsed).thing.interactions.map (·.name)).Nodup) :
    Tells (productOf servient id parsed).thing.toDescription definition id := by
  have hthing : (productOf servient id parsed).thing =
      { Thing.new id ((parsed.text? "name").getD "") (parsed.text? "description") with
        interactions := (productOf servient id parsed).thing.interactions } := by
    rw [productOf_interactions, productOf, ExposedThing.made_thing]
    rfl
  obtain ⟨name, hgiven, hname⟩ := name_of_check hp
  have hdescription := description_of_check hp
  have hall := interactions_of_check hp servient id
  refine ⟨?_, ?_, ?_, ?_, ?_⟩
  · rw [hthing]
    rfl
  · rw [hthing, hgiven, hname]
    rfl
  · rw [hthing, ← hdescription]
    cases hd : parsed.text? "description" with
    | none => simp [Thing.toDescription, Thing.new, Value.optional, Value.member?, Members.get?]
    | some text => simp [Thing.toDescription, Thing.new, Value.optional, Value.member?, Members.get?]
  · intro kind
    refine ((productOf servient id parsed).thing.documents hnames kind).trans (.of_eq ?_)
    have hlisted : (productOf servient id parsed).thing.listed = (declaredBy definition).map fun d => (d.1, d.2.1) := by
      refine map_eq_of_forall₂ (hall.imp fun d i hr => ?_)
      rw [Interaction.kind, hr.affordance, offered_kind, hr.name]
    have hnamed : ((((declaredBy definition).map fun d => (d.1, d.2.1)).filter (·.1 = kind)).map (·.2)) =
        ((declaredBy definition).filter (·.1 = kind)).map (·.2.1) := by
      simp [List.filter_map, Function.comp_def]
    rw [hlisted, hnamed]
    refine List.filter_eq_self.mpr fun n hn => ?_
    obtain ⟨d, hd, rfl⟩ := List.mem_map.mp hn
    exact decide_eq_true (name_of_declared (List.mem_filter.mp hd).1)
  · intro d hd
    obtain ⟨i, hi, hr, -⟩ := product_of_declared servient id hp hd
    obtain ⟨entry, hentry, hmembers⟩ := i.describe_members
    have hfree : i.name ≠ Members.forbidden := hr.name ▸ name_of_declared hd
    have hkind : i.kind = d.1 := by rw [Interaction.kind, hr.affordance, offered_kind]
    refine ⟨entry, ?_, fun key => ?_⟩
    · rw [← hr.name, ← hkind, ← hentry]
      exact Thing.entry_of_mem hnames hi hfree
    · rw [hmembers, hr.affordance, hr.label]

end Product

/-! ### Calls to what was made -/

section Calls
variable {earlier : List Input} {t : Nat} {x : ExposedThing} {i : Interaction}

/-- A call that the host itself answers settles with that answer. -/
theorem settlesWith_of_standard {ask : Ask} (hx : (reached earlier).things[t]? = some x)
    (hi : x.thing.findKind? (ExposedThing.target ask.kind) ask.name = some i) (hw : ask.kind ≠ .write)
    (hstandard : x.handlers.get ask.kind (some i.serial) = .standard) (later : List Input) :
    SettlesWith earlier t ask later (settlement ask (x.answer ask).2) := by
  have ha := ExposedThing.accept_of_open hi fun h => absurd h hw
  obtain ⟨hresolved, -, hsettled, hsettles, -⟩ := accepted_of_accept hx ha later
  rw [hstandard] at hresolved
  obtain ⟨-, hquiet, hanswers⟩ := hresolved
  rw [hanswers] at hsettled hsettles
  exact ⟨hquiet, hsettled, hsettles⟩

/-- Unless a handler is set for invocations, who answers them stays the same. -/
theorem invoke_reached (hx : (reached earlier).things[t]? = some x) {more : List Input}
    (hnone : ∀ d ∈ meanwhile t earlier more, d.setsInvoke = false) {y : ExposedThing}
    (hy : (reached (earlier ++ more)).things[t]? = some y) (n : Option Nat) :
    y.handlers.get .invoke n = x.handlers.get .invoke n := by
  induction more using List.reverseRecOn generalizing y with
  | nil =>
    rw [List.append_nil, hx] at hy
    cases hy
    rfl
  | append_singleton more j ih =>
    rw [meanwhile_concat] at hnone
    obtain ⟨z, hz, -⟩ := standing_reached hx more
    obtain ⟨w, b, hd, hw⟩ := step_does hz j
    rw [← List.append_assoc, reached_snoc, hw] at hy
    cases hy
    rw [← ih (fun d hd => hnone d (List.mem_append_left _ hd)) hz]
    exact hd.invoke (fun d hd => hnone d (List.mem_append_right _ hd)) n

/-- A property that was made can be read at once. -/
theorem reads_of_made {servient : Nat} {id : String} {definition parsed : Value}
    (hx : (reached earlier).things[t]? = some (productOf servient id parsed))
    (hcheck : Schema.check thingSchema definition = .ok parsed) {d : InteractionKind × String × Value}
    (hd : d ∈ declaredBy definition) (hproperty : d.1 = .property) (later : List Input) :
    SettlesWith earlier t (.read (.string d.2.1)) later (.ok (d.2.2.member "value")) := by
  obtain ⟨i, hi, hr, hvalue⟩ := product_of_declared servient id hcheck hd
  have hkind : i.kind = .property := by rw [Interaction.kind, hr.affordance, offered_kind, hproperty]
  let ask : Ask := .read (.string d.2.1)
  have hfound : (productOf servient id parsed).thing.findKind? (ExposedThing.target ask.kind) ask.name = some i := by
    have hname := (tidy_reached hx).findKind? hi
    rwa [hkind, hr.name] at hname
  have hanswer : ((productOf servient id parsed).answer ask).2 = .ok (d.2.2.member "value") := by
    rw [ExposedThing.answer_of_found hfound]
    obtain ⟨kind, name, given⟩ := d
    cases hproperty
    exact congrArg Except.ok hvalue
  have hsettles := settlesWith_of_standard hx hfound (by simp [ask, Ask.kind]) (productOf_handlers ..) later
  rwa [hanswer] at hsettles

/-- An action that was made waits for a handler, as long as it stands. -/
theorem unanswered_of_made {servient : Nat} {id : String} {parsed : Value}
    (hx : (reached earlier).things[t]? = some (productOf servient id parsed))
    (hi : i ∈ (productOf servient id parsed).thing.interactions) (hkind : i.kind = .action) {more : List Input}
    (hstands : .withdrawn i ∉ meanwhile t earlier more) (hnone : ∀ d ∈ meanwhile t earlier more, d.setsInvoke = false)
    (arguments : List Value) (later : List Input) :
    SettlesWith (earlier ++ more) t (.invoke (.string i.name) arguments) later (refuse .undefinedActionHandler) := by
  obtain ⟨y, hy, hstanding⟩ := standing_reached hx more
  have hfound := (tidy_reached hx).findKind? hi
  rw [hkind] at hfound
  let ask : Ask := .invoke (.string i.name) arguments
  -- It is still the interaction that the name stands for, and still has no handler.
  have hstill : y.thing.findKind? (ExposedThing.target ask.kind) ask.name = some i :=
    (hstanding.found_iff (tidy_reached hy) hfound).mpr hstands
  have hstandard : y.handlers.get ask.kind (some i.serial) = .standard :=
    (invoke_reached hx hnone hy _).trans (productOf_handlers ..)
  exact settlesWith_of_standard hy hstill (by simp [ask, Ask.kind]) hstandard later

end Calls

/-! ### The law -/

section Law
variable {earlier : List Input} {servient : Nat} {definition : Value} {freshId : String} {t : Nat}

/-- Where a Thing comes from that is produced. -/
theorem made_of_produced {h : Host}
    (hp : .returned (.ok (.thing t)) ∈ (h.step (.operate (.produce servient definition freshId))).2) :
    ∃ s parsed id, h.servients[servient]? = some s ∧ Schema.check thingSchema definition = .ok parsed ∧
      id = (definition.text? "id").getD freshId ∧ s.has id = false ∧ t = h.things.length ∧
      (h.step (.operate (.produce servient definition freshId))).1 = { h with
        things := h.things ++ [productOf servient id parsed]
        servients := h.servients.set servient { s with registered := s.registered ++ [(id, h.things.length)] } } := by
  have hstep : h.step (.operate (.produce servient definition freshId)) = h.produce servient definition freshId := rfl
  rw [hstep] at hp ⊢
  cases hs : h.servients[servient]? with
  | none => simp [produce, hs] at hp
  | some s =>
    rcases produce_cases hs definition freshId with ⟨issues, -, hall⟩ | ⟨parsed, id, hcheck, hid, ⟨-, hall⟩ | ⟨hhas, lines, hall⟩⟩
    · simp [hall, returns, refuse] at hp
    · simp [hall, returns, refuse] at hp
    · cases hr : reservedEvent? definition with
      | some name => simp [hall, hr, refuse] at hp
      | none =>
        rw [hr] at hall
        have ht : t = h.things.length := by simpa [hall] using hp
        exact ⟨s, parsed, id, rfl, hcheck, hid, hhas, ht, by rw [hall]⟩

/-- A Thing that is produced is what its definition says. -/
theorem translation_law (hp : .returned (.ok (.thing t)) ∈
      ((reached earlier).step (.operate (.produce servient definition freshId))).2) :
    ∃ x, Translates earlier servient definition freshId t x := by
  obtain ⟨s, parsed, id, hs, hcheck, hid, hhas, rfl, hstep⟩ := made_of_produced hp
  have hnow : reached (produced earlier servient definition freshId) = { reached earlier with
      things := (reached earlier).things ++ [productOf servient id parsed]
      servients := (reached earlier).servients.set servient
        { s with registered := s.registered ++ [(id, (reached earlier).things.length)] } } := by
    rw [produced, reached_snoc, hstep]
  have hx : (reached (produced earlier servient definition freshId)).things[(reached earlier).things.length]? =
      some (productOf servient id parsed) := by
    rw [hnow]
    exact List.getElem?_concat_length ..
  refine ⟨productOf servient id parsed, hx, ?_, interactions_of_check hcheck servient id, ?_, ?_, ?_, ?_⟩
  · rw [productOf_id, hid]
  · exact fun d hd hproperty later => reads_of_made hx hcheck hd hproperty later
  · rw [productOf_id]
    exact tells_of_check hcheck (tidy_reached hx).names
  · exact fun i hi hkind more hstands hnone => unanswered_of_made hx hi hkind hstands hnone
  · refine ⟨s, hs, ?_, ?_⟩
    · rw [productOf_id]
      refine (orderly_reached earlier s (List.mem_of_getElem? hs)).enabled id ?_
      simpa [Servient.has] using hhas
    · rw [hnow, productOf_id]

/-- A lamp with a property whose data description has a label of its own, and a member under the key that no object
    has. -/
def lantern : Value :=
  .object [("id", .string "lantern"), ("name", .string "Lantern"),
    ("properties", .object [("on", .object [("value", .bool true), ("writable", .bool false),
      ("description", .object [("__proto__", .null), ("label", .string "Light")])])]),
    ("actions", .object [("blink", .object [])]), ("events", .object [("empty", .object [])])]

theorem lantern_translates :
    (.returned (.ok (.thing 0)) ∈ ((reached []).step (.operate (.produce 0 lantern "fresh"))).2) ∧
    ∃ x, Translates [] 0 lantern "fresh" 0 x := by
  have hp : .returned (.ok (.thing 0)) ∈ ((reached []).step (.operate (.produce 0 lantern "fresh"))).2 :=
    List.mem_of_getElem? (i := 7) (by rfl)
  exact ⟨hp, translation_law hp⟩

/-- That member of the data description does not reach the Thing. -/
theorem lantern_loses_member :
    (declaredBy lantern).map (fun d => d.2.2.data? "description") =
      [some [("__proto__", .null), ("label", .string "Light")], none, none] ∧
    (reached (produced [] 0 lantern "fresh")).things[0]?.map (fun x => x.thing.interactions.map (·.affordance)) =
      some [.property [("label", .string "Light")] false true, .action none none, .event none] :=
  ⟨by rfl, by rfl⟩

end Law

end Host
end ThingHost
