import ThingHost.Proofs.Configuration.Catalog
import ThingHost.Proofs.Host.Production

/-! What comes out of a schema is a normal form: the schema accepts it again and leaves it as it is, with the order of
    its members and with the members that are there but undefined. So a definition may go through its schema as often
    as it likes. A Thing that is produced from a catalog's definition is the one that the file's own definition would
    have made, but for an id that had to be generated. -/

namespace ThingHost

/-! ### The same Thing under another id -/

namespace ExposedThing

def renamed (id : String) (x : ExposedThing) : ExposedThing := { x with thing := { x.thing with id } }

/-- What is declared does not depend on the id. -/
theorem made_renamed (id : String) (x : ExposedThing) (ds : List (InteractionKind × String × Value)) :
    (x.renamed id).made ds = (x.made ds).renamed id := by
  induction ds generalizing x with
  | nil => rfl
  | cons d ds ih => exact ih (x.declared d.1 d.2.1 d.2.2 none)

end ExposedThing

namespace Host

theorem productOf_renamed (servient : Nat) (id id' : String) (parsed : Value) :
    productOf servient id' parsed = (productOf servient id parsed).renamed id' :=
  ExposedThing.made_renamed id' (ExposedThing.new servient
    (.new id ((parsed.text? "name").getD "") (parsed.text? "description"))) (declarations parsed)

/-! ### Definitions in normal form -/

/-- What came out of a definition is as good as the definition, and goes through every schema unchanged. -/
structure Normal (definition parsed : Value) : Prop where
  again : thingSchema.parse parsed = .ok parsed
  /-- Each declaration is checked once more when it is added, and is left as it is. -/
  entries : ∀ d ∈ declarations parsed, ExposedThing.givenDefinition d.1 d.2.2 = .ok d.2.2 ∧
    (interactionSchema d.1).parse d.2.2 = .ok d.2.2 ∧
    parseDefinition (interactionSchema d.1) (.string d.2.1) d.2.2 = .ok d.2.2
  /-- With the same id generated, whatever happens is the same. -/
  produced : ∀ (h : Host) servient freshId, h.step (.operate (.produce servient parsed freshId)) =
    h.step (.operate (.produce servient definition freshId))
  /-- Whatever ids are generated, the Things that are made differ in nothing else. -/
  same : ∀ (h h' : Host) servient freshId freshId' x x',
    (h.step (.operate (.produce servient definition freshId))).1.things = h.things ++ [x] →
    (h'.step (.operate (.produce servient parsed freshId'))).1.things = h'.things ++ [x'] → x' = x.renamed x'.id

section Normal
variable {definition parsed : Value}

theorem parse_again {s : Schema} (hs : s.Distinct) {v w : Value} (h : s.parse v = .ok w) : s.parse w = .ok w :=
  Schema.parse_eq_ok.mpr (Schema.check_self hs (Schema.parse_eq_ok.mp h))

/-- A Thing that is made is made from what came out of its definition. -/
theorem product_of_things {h : Host} {servient : Nat} {freshId : String} {x : ExposedThing}
    (hx : (h.step (.operate (.produce servient definition freshId))).1.things = h.things ++ [x])
    (hparsed : thingSchema.parse definition = .ok parsed) : ∃ id, x = productOf servient id parsed := by
  have hstep : h.step (.operate (.produce servient definition freshId)) = h.produce servient definition freshId := rfl
  have hgrown : h.things ≠ h.things ++ [x] := by simp
  rw [hstep] at hx
  cases hs : h.servients[servient]? with
  | none =>
    rw [produce, hs] at hx
    exact absurd hx hgrown
  | some s =>
    rcases produce_cases hs definition freshId with ⟨issues, hp, -⟩ | ⟨again, id, hp, -, ⟨-, hall⟩ | ⟨-, lines, hall⟩⟩
    · rw [hparsed] at hp
      cases hp
    · rw [hall] at hx
      exact absurd hx hgrown
    · have hagain : again = parsed := by
        rw [Schema.parse_eq_ok.mpr hp] at hparsed
        exact Except.ok.inj hparsed
      rw [hall] at hx
      split at hx
      · exact absurd hx hgrown
      · exact ⟨id, hagain ▸ (List.singleton_inj.mp (List.append_cancel_left hx)).symm⟩

theorem normal_of_parse (h : thingSchema.parse definition = .ok parsed) : Normal definition parsed := by
  have hagain := parse_again distinct_thingSchema h
  refine ⟨hagain, fun d hd => ?_, fun host servient freshId => ?_, ?_⟩
  · obtain ⟨a, -, had⟩ := Schema.exists_of_mem_right (declarations_of_check (Schema.parse_eq_ok.mp h)) hd
    exact ⟨ExposedThing.givenDefinition_of_fits had.fits, Schema.parse_eq_ok.mpr had.fits.definition,
      ExposedThing.parseDefinition_of_fits had.fits⟩
  · have hstep : ∀ v, host.step (.operate (.produce servient v freshId)) = host.produce servient v freshId :=
      fun _ => rfl
    rw [hstep, hstep, produce, produce, h, hagain]
  · intro host host' servient freshId freshId' x x' hx hx'
    obtain ⟨id, rfl⟩ := product_of_things hx h
    obtain ⟨id', rfl⟩ := product_of_things hx' hagain
    rw [productOf_id]
    exact productOf_renamed servient id id' parsed

end Normal

/-! ### The law -/

/-- What comes out of the schemas of interactions and of Things is in normal form, and so is every definition that a
    catalog holds. -/
theorem normal_form_law :
    (∀ kind given parsed, (interactionSchema kind).parse given = .ok parsed →
      (interactionSchema kind).parse parsed = .ok parsed) ∧
    (∀ definition parsed, thingSchema.parse definition = .ok parsed → Normal definition parsed) ∧
    ∀ path catalog things definitions, catalog.member "things" = .array things →
      Catalog.ofValue path catalog = .ok definitions → List.Forall₂ Normal things definitions := by
  refine ⟨fun kind given parsed => parse_again (distinct_interactionSchema kind), fun _ _ => normal_of_parse, ?_⟩
  intro path catalog things definitions hthings hload
  rw [Catalog.ofValue] at hload
  cases hparse : Catalog.schema.parse catalog with
  | error issues =>
    rw [hparse] at hload
    cases hload
  | ok parsed =>
    rw [hparse] at hload
    cases hload
    exact (Catalog.definitions_of_check hthings (Schema.parse_eq_ok.mp hparse)).imp fun _ _ => normal_of_parse

/-- A shed whose members stand in another order, with a member that nobody knows, a label that is there but undefined,
    and a key in a data description that no object gets. -/
def shed : Value :=
  .object [("events", .object []), ("name", .string "Shed"), ("roof", .bool true),
    ("properties", .object [("4", .object [("writable", .undefined), ("label", .undefined),
      ("description", .object [("__proto__", .null), ("type", .string "number")])])])]

/-- The shed in normal form. -/
def shedForm : Value :=
  .object [("name", .string "Shed"),
    ("properties", .object [("4", .object [("label", .undefined), ("description", .object [("type", .string "number")]),
      ("writable", .bool true), ("observable", .bool true)])]),
    ("actions", .object []), ("events", .object [])]

theorem shed_normal : thingSchema.parse shed = .ok shedForm ∧ Normal shed shedForm := by
  have hparse : thingSchema.parse shed = .ok shedForm := by rfl
  exact ⟨hparse, normal_form_law.2.1 shed shedForm hparse⟩

end Host
end ThingHost
