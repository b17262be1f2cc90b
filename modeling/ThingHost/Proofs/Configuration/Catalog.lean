import Mathlib.Data.List.Sigma
import ThingHost.Configuration.Catalog
import ThingHost.Proofs.Definition
import ThingHost.Proofs.Schema.Parts

/-! A catalog is taken Thing by Thing. It is accepted if every definition in it is, and holds then what each of them
    comes to. If not, what is wrong with it is what is wrong with each definition alone, in their order and under the
    place where the definition stands. -/

namespace ThingHost
namespace Catalog

/-- What is wrong with the definitions of a catalog, each looked at alone. -/
def thingFaults (things : List Value) : List Issue :=
  things.zipIdx.flatMap fun (thing, n) =>
    (thingSchema.faults thing).map fun i => (i.under (.index n)).under (.key "things")

/-- The issue as seen from the definition with a number, if it is about that one. -/
def within? (n : Nat) (i : Issue) : Option Issue :=
  match i.path with
  | .key "things" :: .index m :: path => if m = n then some { i with path } else none
  | _ => none

/-- What comes of a catalog that holds the given definitions. -/
structure Pointwise (path : String) (things : List Value) (outcome : Except Thrown (List Value)) : Prop where
  accepted : (∃ definitions, outcome = .ok definitions) ↔
    ∀ thing ∈ things, ∃ definition, thingSchema.parse thing = .ok definition
  definitions : ∀ definitions, outcome = .ok definitions →
    List.Forall₂ (fun thing definition => thingSchema.parse thing = .ok definition) things definitions
  refused : (¬∀ thing ∈ things, ∃ definition, thingSchema.parse thing = .ok definition) →
    outcome = .error (.refusal (.invalidConfiguration (.catalog path) (thingFaults things)))
  /-- Of each definition the same is reported as if it stood alone. -/
  apart : ∀ issues, outcome = .error (.refusal (.invalidConfiguration (.catalog path) issues)) →
    ∀ n thing, things[n]? = some thing → issues.filterMap (within? n) = thingSchema.faults thing

section Catalog
variable {path : String} {catalog : Value} {things : List Value}

theorem within_under (n m : Nat) (i : Issue) :
    within? n ((i.under (.index m)).under (.key "things")) = if m = n then some i else none := rfl

/-- What is wrong with a definition is found at its number, as it was. -/
theorem filterMap_thingFaults {n : Nat} {thing : Value} (hn : things[n]? = some thing) :
    (thingFaults things).filterMap (within? n) = thingSchema.faults thing := by
  have hdistinct : things.zipIdx.Nodup := List.Nodup.of_map Prod.snd (List.nodup_zipIdx_map_snd things)
  have hmem : (thing, n) ∈ things.zipIdx := List.mem_zipIdx_iff_getElem?.mpr hn
  rw [thingFaults, List.filterMap_flatMap, Schema.flatMap_one hdistinct hmem]
  · simp [List.filterMap_map, Function.comp_def, within_under]
  · -- Another definition has another number.
    rintro ⟨other, m⟩ hother hne
    have hnumber : m ≠ n := by
      rintro rfl
      rw [List.mem_zipIdx_iff_getElem?, hn] at hother
      cases hother
      exact hne rfl
    simp [List.filterMap_map, Function.comp_def, within_under, hnumber]

theorem object_of_things (h : catalog.member "things" = .array things) : ∃ members, catalog = .object members := by
  cases catalog with
  | object members => exact ⟨members, rfl⟩
  | _ => cases h

theorem things_of_items (h : catalog.items "things" ≠ []) :
    catalog.member "things" = .array (catalog.items "things") := by
  rw [Value.items] at h ⊢
  cases hmember : catalog.member "things" with
  | array things => rfl
  | _ =>
    rw [hmember] at h
    exact absurd rfl h

/-- Nothing but its definitions can be wrong with a catalog. -/
theorem schema_issues (h : catalog.member "things" = .array things) :
    (schema.check catalog).issues = thingFaults things := by
  obtain ⟨members, rfl⟩ := object_of_things h
  have hlist : ((Schema.withDefault (.list thingSchema) (.array [])).check (.array things)).issues =
      things.zipIdx.flatMap fun t => (thingSchema.check t.1).issues.map (·.under (.index t.2)) := by
    rw [Schema.check, ← Schema.list_issues]
    rfl
  rw [schema, Schema.shape_issues, List.flatMap_singleton, h, hlist, List.map_flatMap]
  simp only [List.map_map, thingFaults, Schema.faults_eq, Function.comp_def]

theorem thingFaults_eq_nil :
    thingFaults things = [] ↔ ∀ thing ∈ things, ∃ definition, thingSchema.parse thing = .ok definition := by
  simp only [Schema.exists_parse, ← Schema.faults_eq, thingFaults, List.flatMap_eq_nil_iff, List.map_eq_nil_iff]
  constructor
  · intro h thing hthing
    obtain ⟨n, hn, rfl⟩ := List.getElem_of_mem hthing
    exact h (things[n], n) (List.mem_zipIdx_iff_getElem?.mpr (List.getElem?_eq_getElem hn))
  · intro h t ht
    exact h t.1 (List.fst_mem_of_mem_zipIdx ht)

theorem definitions_of_check (h : catalog.member "things" = .array things) {parsed : Value}
    (hparsed : schema.check catalog = .ok parsed) :
    List.Forall₂ (fun thing definition => thingSchema.parse thing = .ok definition) things (definitions parsed) := by
  have hfield := Schema.member_of_shape (by simp) hparsed List.mem_cons_self
  rw [h, Schema.check] at hfield
  obtain ⟨items, items', hitems, hmember, hall⟩ := Schema.check_list.mp hfield
  cases hitems
  rw [definitions, Value.items, hmember]
  exact hall.imp fun _ _ hcheck => Schema.parse_eq_ok.mpr hcheck

end Catalog

/-! ### The law -/

/-- The catalog that the bytes of a file hold, if they are JSON. -/
def read? (bytes : List Nat) : Option Value := Json.read? (String.ofList (Utf8.decodeLossy bytes))

section Law
variable {bytes : List Nat} {catalog : Value} {things : List Value}

theorem load_file (hread : read? bytes = some catalog) (path : String) :
    load path (.file bytes) = (ofValue path catalog).mapError .ofRefusal := by
  rw [read?] at hread
  rw [load, ofText, hread]

theorem load_accepted (hread : read? bytes = some catalog) (hthings : catalog.member "things" = .array things)
    (hfaults : thingFaults things = []) (path : String) : ∃ ds, load path (.file bytes) = .ok ds ∧
      List.Forall₂ (fun thing definition => thingSchema.parse thing = .ok definition) things ds := by
  obtain ⟨parsed, hparsed⟩ := Schema.exists_parse.mpr ((schema_issues hthings).trans hfaults)
  refine ⟨definitions parsed, ?_, definitions_of_check hthings (Schema.parse_eq_ok.mp hparsed)⟩
  rw [load_file hread, ofValue, hparsed]
  rfl

theorem load_refused (hread : read? bytes = some catalog) (hthings : catalog.member "things" = .array things)
    (hfaults : thingFaults things ≠ []) (path : String) : load path (.file bytes) =
      .error (.refusal (.invalidConfiguration (.catalog path) (thingFaults things))) := by
  have hissues := schema_issues hthings
  rw [load_file hread, ofValue, Schema.parse_of_issues (hissues ▸ hfaults), hissues]
  rfl

theorem catalog_law (hread : read? bytes = some catalog) (hthings : catalog.member "things" = .array things)
    (path : String) : Pointwise path things (load path (.file bytes)) := by
  by_cases hfaults : thingFaults things = []
  · have hall := thingFaults_eq_nil.mp hfaults
    obtain ⟨ds, hload, hds⟩ := load_accepted hread hthings hfaults path
    rw [hload]
    refine ⟨⟨fun _ => hall, fun _ => ⟨ds, rfl⟩⟩, ?_, fun hnot => absurd hall hnot, ?_⟩
    · rintro _ ⟨⟩
      exact hds
    · rintro _ ⟨⟩
  · have hnot := mt thingFaults_eq_nil.mpr hfaults
    rw [load_refused hread hthings hfaults path]
    refine ⟨⟨?_, fun hall => absurd hall hnot⟩, ?_, fun _ => rfl, ?_⟩
    · rintro ⟨_, ⟨⟩⟩
    · rintro _ ⟨⟩
    · rintro _ ⟨⟩ n thing hn
      exact filterMap_thingFaults hn

end Law

/-- The bytes of a catalog with three definitions. In the first nothing is wrong, `{"name":"A"}`; the second has an
    empty name and uses a name twice, `{"name":"","actions":{"p":{}},"events":{"p":{}}}`; the third has null where an
    object is due, so it is not asked for its names, `{"name":"B","actions":{"p":null},"events":{"p":{}}}`. -/
def orchardFile : List Nat :=
  let text := "\x7b\"things\":[\x7b\"name\":\"A\"\x7d," ++
    "\x7b\"name\":\"\",\"actions\":\x7b\"p\":\x7b\x7d\x7d,\"events\":\x7b\"p\":\x7b\x7d\x7d\x7d," ++
    "\x7b\"name\":\"B\",\"actions\":\x7b\"p\":null\x7d,\"events\":\x7b\"p\":\x7b\x7d\x7d\x7d]\x7d"
  text.toList.map (·.toNat)

theorem orchard_pointwise : ∃ catalog things, read? orchardFile = some catalog ∧
    catalog.member "things" = .array things ∧ Pointwise "orchard.json" things (load "orchard.json" (.file orchardFile)) ∧
    thingFaults things =
      [⟨[.key "things", .index 1, .key "name"], .tooShort 1⟩,
        ⟨[.key "things", .index 1, .key "events", .key "p"], .nameTaken "p"⟩,
        ⟨[.key "things", .index 2, .key "actions", .key "p"], .wrongType "object" "null"⟩] := by
  have hfaults : (read? orchardFile).map (fun catalog => thingFaults (catalog.items "things")) = some
      [⟨[.key "things", .index 1, .key "name"], .tooShort 1⟩,
        ⟨[.key "things", .index 1, .key "events", .key "p"], .nameTaken "p"⟩,
        ⟨[.key "things", .index 2, .key "actions", .key "p"], .wrongType "object" "null"⟩] := by
    decide +kernel
  obtain ⟨catalog, hread, hfaults⟩ := Option.map_eq_some_iff.mp hfaults
  have hthings : catalog.member "things" = .array (catalog.items "things") := by
    refine things_of_items fun hnone => ?_
    rw [hnone] at hfaults
    cases hfaults
  exact ⟨catalog, _, hread, hthings, catalog_law hread hthings "orchard.json", hfaults⟩

end Catalog
end ThingHost
