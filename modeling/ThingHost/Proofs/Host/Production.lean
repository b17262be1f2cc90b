import ThingHost.Proofs.Exposed.Making
import ThingHost.Proofs.Host.Effect

/-! What becomes of a definition from which a Thing is to be produced. What speaks against it can be told from the
    definition and the ids that are taken: it does not fit, or its id is taken, or one of its events has a reserved
    name. Else the Thing is made and registered. As it is built aside, nothing of it is left when it cannot be. -/

namespace ThingHost
namespace Host

/-! ### What speaks against a definition -/

/-- The first of the events that a definition declares whose name is reserved. -/
def reservedEvent? (definition : Value) : Option String :=
  (Members.keys (definition.member (sectionKey .event)).fields).find? isReserved

/-- What speaks against producing a Thing from a definition, if anything does. -/
def objection? (s : Servient) (definition : Value) : Option ThingError :=
  match thingSchema.parse definition with
  | .error issues => some (.invalidThing issues)
  | .ok _ =>
    match (definition.text? "id").filter s.has with
    | some id => some (.duplicateThing id)
    | none => (reservedEvent? definition).map nameReserved

section Objection
variable {definition parsed : Value}

/-- Where a name is reserved, in the definition as it was given or as it came out of its schema. -/
theorem reservedEvent?_eq (h : Schema.check thingSchema definition = .ok parsed) :
    ((declarations parsed).find? reservesName).map (·.2.1) = reservedEvent? definition := by
  have hplain : ∀ (kind : InteractionKind), kind ≠ .event → ∀ fields : Fields,
      (fields.map fun m => (kind, m.1, m.2)).find? reservesName = none := by
    intro kind hkind fields
    simp [reservesName, hkind]
  have hevents : ((declarations parsed).find? reservesName).map (·.2.1) =
      (Members.keys (parsed.member (sectionKey .event)).fields).find? isReserved := by
    simp only [declarations, InteractionKind.all, List.flatMap_cons, List.flatMap_nil, List.append_nil, List.find?_append,
      hplain .property (by decide), hplain .action (by decide), Option.none_or, Members.keys, List.find?_map,
      Option.map_map]
    rfl
  rw [hevents, section_keys (shape_of_check h) .event, List.find?_filter, reservedEvent?]
  congr 1
  funext name
  by_cases hname : name = Members.forbidden
  · subst hname
    decide
  · simp [hname]

end Objection

/-! ### Building the Thing -/

theorem find?_declared {name other : String} (hne : name ≠ other) (x : ExposedThing) (kind : InteractionKind)
    (definition : Value) (handler : Option Handler) :
    (x.declared kind name definition handler).thing.find? other = x.thing.find? other := by
  have hname : (interactionOf x.nextSerial kind name definition).name = name := rfl
  simp [ExposedThing.declared, Thing.find?, List.find?_append, hname, hne]

/-- Nobody listens to a Thing that is being built. -/
theorem unheard {y : ExposedThing} (hbus : y.bus = .new) (e : Event) : { y with bus := (y.bus.publish e).1 } = y := by
  rw [hbus, publish_new, ← hbus]

/-- Declarations that fit are made one after another, up to the first event with a reserved name. -/
theorem declareAll_of_fits {ds : List (InteractionKind × String × Value)} {x : ExposedThing} (hfits : ∀ d ∈ ds, Fits d)
    (hnames : (ds.map (·.2.1)).Nodup) (hfree : ∀ d ∈ ds, (x.thing.find? d.2.1).isSome = false) (hbus : x.bus = .new) :
    (declareAll x ds).1 = match ds.find? reservesName with
      | some d => refuse (nameReserved d.2.1)
      | none => .ok (x.made ds) := by
  induction ds generalizing x with
  | nil => rfl
  | cons d ds ih =>
    obtain ⟨hname, hnames⟩ := List.nodup_cons.mp hnames
    have hadd := ExposedThing.add_of_fits (hfits d List.mem_cons_self) (hfree d List.mem_cons_self)
    have hrest := ih (x := x.declared d.1 d.2.1 d.2.2 none) (fun d' hd' => hfits d' (List.mem_cons_of_mem _ hd')) hnames
      (fun d' hd' => by
        have hne : d.2.1 ≠ d'.2.1 := fun heq => hname (List.mem_map.mpr ⟨d', hd', heq.symm⟩)
        rw [find?_declared hne]
        exact hfree d' (List.mem_cons_of_mem _ hd')) hbus
    obtain ⟨kind, name, definition⟩ := d
    dsimp only at hadd hrest
    cases hr : reservesName (kind, name, definition) with
    | true =>
      rw [hr, if_pos rfl] at hadd
      simp [declareAll, hadd, hr, refuse]
    | false =>
      rw [hr, if_neg Bool.false_ne_true] at hadd
      -- The announcement leaves no trace on the bus, so the rest is declared on the Thing as it is.
      have hunheard := unheard (y := x.declared kind name definition none) hbus
      simp only [declareAll, hadd, hunheard, List.find?_cons, hr]
      exact hrest

/-! ### The step -/

/-- The Thing that is made from a definition in the form of its schema. -/
def productOf (servient : Nat) (id : String) (parsed : Value) : ExposedThing :=
  (ExposedThing.new servient (.new id ((parsed.text? "name").getD "") (parsed.text? "description"))).made
    (declarations parsed)

section Step
variable {h : Host} {servient : Nat} {s : Servient} {definition parsed : Value} {freshId : String}

theorem noted_lines (thing : Option String) (notes : List Note) :
    noted thing notes = (notes.map fun n => (⟨thing, n⟩ : LogLine)).map .log := by
  simp [noted]

theorem productOf_id (servient : Nat) (id : String) (parsed : Value) : (productOf servient id parsed).id = id := by
  rw [productOf, ExposedThing.id, ExposedThing.made_thing]
  rfl

theorem declareAll_of_check (hp : Schema.check thingSchema definition = .ok parsed) (servient : Nat) (id : String) :
    (declareAll (ExposedThing.new servient (.new id ((parsed.text? "name").getD "") (parsed.text? "description")))
      (declarations parsed)).1 = match reservedEvent? definition with
        | some name => refuse (nameReserved name)
        | none => .ok (productOf servient id parsed) := by
  have hfits : ∀ d ∈ declarations parsed, Fits d := by
    intro d hd
    obtain ⟨a, -, had⟩ := Schema.exists_of_mem_right (declarations_of_check hp) hd
    exact had.fits
  rw [declareAll_of_fits hfits (names_of_check hp) (fun _ _ => rfl) rfl, ← reservedEvent?_eq hp]
  cases (declarations parsed).find? reservesName <;> rfl

/-- A definition that fits and whose id is free comes to a Thing, or to the refusal of a reserved name. -/
theorem produce_of_check (hs : h.servients[servient]? = some s) (hp : Schema.check thingSchema definition = .ok parsed)
    {id : String} (hid : (parsed.text? "id").getD freshId = id) (hfree : s.has id = false) :
    ∃ lines : List LogLine, h.produce servient definition freshId = match reservedEvent? definition with
      | some name => (h, lines.map .log ++ [.returned (refuse (nameReserved name))])
      | none => ({ h with
            things := h.things ++ [productOf servient id parsed]
            servients := h.servients.set servient { s with registered := s.registered ++ [(id, h.things.length)] } },
          lines.map .log ++ [.returned (.ok (.thing h.things.length))]) := by
  have hdeclared := declareAll_of_check hp servient id
  have hparse := Schema.parse_eq_ok.mpr hp
  have hregister : s.register id h.things.length =
      .ok { s with registered := s.registered ++ [(id, h.things.length)] } := by simp [Servient.register, hfree]
  rcases hd : declareAll (ExposedThing.new servient (.new id ((parsed.text? "name").getD "") (parsed.text? "description")))
    (declarations parsed) with ⟨r, notes⟩
  rw [hd] at hdeclared
  dsimp only at hdeclared
  cases hr : reservedEvent? definition with
  | some name =>
    rw [hr] at hdeclared
    dsimp only at hdeclared
    refine ⟨notes.map fun n => ⟨some id, n⟩, ?_⟩
    simp [produce, hs, hparse, hid, hfree, hd, hdeclared, refuse, prepend, returns, noted_lines]
  | none =>
    rw [hr] at hdeclared
    dsimp only at hdeclared
    refine ⟨(notes.map fun n => ⟨some id, n⟩) ++ [⟨none, .thingRegistered id ((parsed.text? "name").getD "")⟩], ?_⟩
    simp [produce, hs, hparse, hid, hfree, hd, hdeclared, hregister, prepend, returns, noted_lines, setServient]

/-- What it comes to when a Thing is to be produced, in the order in which things are looked at: whether the definition
    fits, whether the id is taken, whether an event has a reserved name. -/
theorem produce_cases (hs : h.servients[servient]? = some s) (definition : Value) (freshId : String) :
    (∃ issues, thingSchema.parse definition = .error issues ∧
      h.produce servient definition freshId = h.returns (refuse (.invalidThing issues))) ∨
    ∃ parsed id, Schema.check thingSchema definition = .ok parsed ∧ id = (definition.text? "id").getD freshId ∧
      (s.has id = true ∧ h.produce servient definition freshId = h.returns (refuse (.duplicateThing id)) ∨
        s.has id = false ∧ ∃ lines : List LogLine, h.produce servient definition freshId =
          match reservedEvent? definition with
          | some name => (h, lines.map .log ++ [.returned (refuse (nameReserved name))])
          | none => ({ h with
                things := h.things ++ [productOf servient id parsed]
                servients := h.servients.set servient { s with registered := s.registered ++ [(id, h.things.length)] } },
              lines.map .log ++ [.returned (.ok (.thing h.things.length))])) := by
  cases hp : thingSchema.parse definition with
  | error issues =>
    refine .inl ⟨issues, rfl, ?_⟩
    simp [produce, hs, hp]
  | ok parsed =>
    have hcheck := Schema.parse_eq_ok.mp hp
    have hid : (parsed.text? "id").getD freshId = (definition.text? "id").getD freshId := by rw [id_of_check hcheck]
    refine .inr ⟨parsed, _, hcheck, rfl, ?_⟩
    cases hhas : s.has ((definition.text? "id").getD freshId) with
    | true =>
      refine .inl ⟨rfl, ?_⟩
      simp [produce, hs, hp, hid, hhas]
    | false => exact .inr ⟨rfl, produce_of_check hs hcheck hid hhas⟩

end Step

/-! ### The law -/

/-- What it comes to when a Thing is to be produced is settled by the definition and by the ids that are taken. -/
structure Determined (h : Host) (servient : Nat) (s : Servient) (definition : Value) (freshId : String) : Prop where
  /-- One thing is returned: the refusal, if anything speaks against it, else the Thing. -/
  returns : ∃ lines : List LogLine, (h.step (.operate (.produce servient definition freshId))).2 = lines.map .log ++
    [.returned ((objection? s definition).elim (.ok (.thing h.things.length)) fun e => .error (.refusal e))]
  refused : ∀ e, objection? s definition = some e → (h.step (.operate (.produce servient definition freshId))).1 = h
  registered : objection? s definition = none → ∃ x : ExposedThing, x.id = (definition.text? "id").getD freshId ∧
    (h.step (.operate (.produce servient definition freshId))).1 = { h with
      things := h.things ++ [x]
      servients := h.servients.set servient { s with registered := s.registered ++ [(x.id, h.things.length)] } }

section Law
variable {h : Host} {servient : Nat} {s : Servient} {definition : Value} {freshId : String}

theorem Determined.of_refused {e : ThingError} (lines : List LogLine) (hmessage : e.hasMessage = true)
    (ho : objection? s definition = some e)
    (hstep : h.step (.operate (.produce servient definition freshId)) = (h, lines.map .log ++ [.returned (refuse e)])) :
    Determined h servient s definition freshId := by
  refine ⟨⟨lines, ?_⟩, fun _ _ => ?_, fun hnone => ?_⟩
  · rw [hstep, ho, Option.elim_some, refuse, Thrown.ofRefusal, if_pos hmessage]
  · rw [hstep]
  · rw [ho] at hnone
    cases hnone

end Law

theorem production_law (h : Host) (servient : Nat) (s : Servient) (hs : h.servients[servient]? = some s)
    (definition : Value) (freshId : String) (hfresh : definition.text? "id" = none → s.has freshId = false) :
    Determined h servient s definition freshId := by
  rcases produce_cases hs definition freshId with ⟨issues, hp, hall⟩ | ⟨parsed, id, hp, rfl, ⟨hhas, hall⟩ | ⟨hhas, lines, hall⟩⟩
  · have hobject : objection? s definition = some (.invalidThing issues) := by simp [objection?, hp]
    exact .of_refused [] rfl hobject hall
  · have hparse := Schema.parse_eq_ok.mpr hp
    cases hgiven : definition.text? "id" with
    | none =>
      rw [hgiven, Option.getD_none, hfresh hgiven] at hhas
      cases hhas
    | some id =>
      rw [hgiven, Option.getD_some] at hhas hall
      have htaken : (some id).filter s.has = some id := by simp [Option.filter, hhas]
      have hobject : objection? s definition = some (.duplicateThing id) := by
        simp only [objection?, hparse, hgiven, htaken]
      exact .of_refused [] rfl hobject hall
  · have hparse := Schema.parse_eq_ok.mpr hp
    have hfree : (definition.text? "id").filter s.has = none := by
      cases hgiven : definition.text? "id" with
      | none => rfl
      | some id =>
        rw [hgiven, Option.getD_some] at hhas
        simp [hhas]
    have hobject : objection? s definition = (reservedEvent? definition).map nameReserved := by
      simp [objection?, hparse, hfree]
    have hstep : h.step (.operate (.produce servient definition freshId)) = h.produce servient definition freshId := rfl
    cases hr : reservedEvent? definition with
    | some name =>
      rw [hr] at hall hobject
      exact .of_refused lines rfl hobject hall
    | none =>
      rw [hr] at hall hobject
      refine ⟨⟨lines, ?_⟩, fun e he => ?_, fun _ => ⟨productOf servient _ parsed, productOf_id _ _ _, ?_⟩⟩
      · rw [hstep, hall, hobject]
        rfl
      · rw [hobject] at he
        cases he
      · rw [hstep, hall, productOf_id]

/-- A Thing with a property, an action and two events, of which the second has a reserved name. -/
def siren : Value :=
  .object [("id", .string "siren"), ("name", .string "Siren"),
    ("properties", .object [("on", .object [("value", .bool false)])]), ("actions", .object [("test", .object [])]),
    ("events", .object [("alarm", .object []), ("propertychange", .object [])])]

theorem siren_determined :
    (siren.text? "id" = none → Servient.empty.has "fresh" = false) ∧ Determined Host.new 0 .empty siren "fresh" ∧
    objection? .empty siren = some (nameReserved "propertychange") :=
  ⟨fun h => (nomatch h), production_law Host.new 0 .empty rfl siren "fresh" fun h => (nomatch h), by rfl⟩

end Host
end ThingHost
