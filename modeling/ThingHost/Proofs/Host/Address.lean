import ThingHost.Proofs.Host.Adapter
import ThingHost.Proofs.Host.Registry

/-! Keys over HTTP. Names in URLs and ids share one space of keys, and a name goes before an id; so the id of an
    enabled Thing leads to it unless the id is also the name in URLs of another one. -/

namespace ThingHost

/-! ### Looking up a key -/

namespace Http
variable {things : List (Nat × ExposedThing)} {t : Nat} {x : ExposedThing}

/-- The first Thing that has a key for its name in URLs. -/
def named? (things : List (Nat × ExposedThing)) (key : String) : Option (Nat × ExposedThing) :=
  things.find? fun y => y.2.thing.urlName = key

theorem of_named? {key : String} {found : Nat × ExposedThing} (h : named? things key = some found) :
    found ∈ things ∧ found.2.thing.urlName = key :=
  ⟨List.mem_of_find?_eq_some h, by simpa using List.find?_some h⟩

/-- Where no two Things have one id, the id of a Thing leads to the first one that is named so, else to itself. -/
theorem resolve_id (hx : (t, x) ∈ things) (hids : (things.map (·.2.id)).Nodup) :
    resolve things x.id = (named? things x.id).or (some (t, x)) := by
  have hfirst : things.find? (fun y => y.2.id = x.id) = some (t, x) := by
    cases hf : things.find? (fun y => y.2.id = x.id) with
    | none => simpa using List.find?_eq_none.mp hf _ hx
    | some y =>
      have hid : y.2.id = x.id := by simpa using List.find?_some hf
      rw [List.inj_on_of_nodup_map hids (List.mem_of_find?_eq_some hf) hx hid]
  rw [resolve_eq, sought, hfirst]
  rfl

end Http

namespace Host

open Http

section Statement
variable (inputs : List Input) (servient t : Nat) (x : ExposedThing)

/-- The Things that take part over HTTP after a run. -/
def taking : List (Nat × ExposedThing) := (reached inputs).enabledThingsOf servient

/-- The id of the enabled Thing `x`, of the number `t`, as a key. -/
structure Addresses : Prop where
  /-- The list of Things gives every enabled Thing with its id, in the order of registration. -/
  listed : ∀ r, Http.route r.method r.target = .found .list → (∃ body, r.value = .ok body) →
    (reached inputs).receive servient r = (.replied ⟨200, some "application/json; charset=utf-8",
      if r.method = "HEAD" then "" else Json.write (.array ((taking inputs servient).map fun y =>
        .object [("id", .string y.2.id), ("name", .string y.2.thing.name), ("url_name", .string y.2.thing.urlName)]))⟩,
      reached inputs, [])
  /-- The id leads to the first enabled Thing that has it for its name in URLs, and if there is none to its own. -/
  found : resolve (taking inputs servient) x.id = (named? (taking inputs servient) x.id).or (some (t, x))
  own : (∀ u y, (u, y) ∈ taking inputs servient → y.thing.urlName = x.id → u = t) →
    resolve (taking inputs servient) x.id = some (t, x)
  other : ∀ u y, resolve (taking inputs servient) x.id = some (u, y) → u ≠ t →
    y.thing.urlName = x.id ∧ y.id ≠ x.id
  /-- Where it leads to its own Thing, a read, write or invocation with this key is one of that Thing. -/
  leads : resolve (taking inputs servient) x.id = some (t, x) → ∀ r route body ask,
    Http.route r.method r.target = .found route → route.called? = some x.id → r.value = .ok body →
    route.ask? body = some ask → (reached inputs).receive servient r =
      (.waits (callNumber inputs) ask.kind r.method, (reached inputs).step (.operate (.call t ask)))

end Statement

section Law
variable {inputs : List Input} {servient t : Nat} {x : ExposedThing}

theorem enabledThingsOf_ids (h : Host) (servient : Nat) (hgood : ∀ s ∈ h.servients, Servient.Orderly h.things s) :
    ((h.enabledThingsOf servient).map (·.2.id)).Nodup := by
  unfold enabledThingsOf
  cases hs : h.servients[servient]? with
  | none => exact List.nodup_nil
  | some s =>
    have order := hgood s (List.mem_of_getElem? hs)
    have hids : (s.enabledThings.filterMap fun e => h.things[e.2]?.map (e.2, ·)).map (·.2.id) = s.enabledThings.map (·.1) := by
      rw [List.map_filterMap, ← List.filterMap_eq_map]
      refine List.filterMap_congr fun e he => ?_
      obtain ⟨y, hy, hid⟩ := order.of_mem (List.mem_of_mem_filter he)
      simp [hy, hid]
    show (List.map _ (s.enabledThings.filterMap fun e => h.things[e.2]?.map (e.2, ·))).Nodup
    rw [hids]
    exact (List.filter_sublist.map _).nodup order.distinct

theorem receive_list {h : Host} {r : Request} {body : Value} (hroute : Http.route r.method r.target = .found .list)
    (hbody : r.value = .ok body) : h.receive servient r =
      (.replied (carrying r.method 200 (Json.write (.array ((h.enabledThingsOf servient).map fun y =>
        .object [("id", .string y.2.id), ("name", .string y.2.thing.name), ("url_name", .string y.2.thing.urlName)])))),
        h, []) := by
  simp only [receive, plan, hroute, hbody, planRoute, Plan.sent, ← sent_json]
  rfl

theorem receive_of_resolve {h : Host} {r : Request} {route : Route} {key : String} {body : Value} {ask : Ask}
    (hroute : Http.route r.method r.target = .found route) (hkey : route.called? = some key) (hbody : r.value = .ok body)
    (hask : route.ask? body = some ask) (hfound : resolve (h.enabledThingsOf servient) key = some (t, x)) :
    h.receive servient r = (.waits h.calls.length ask.kind r.method, h.step (.operate (.call t ask))) := by
  have hcalled := planRoute_of_called (h.enabledThingsOf servient) hkey body
  rw [hfound, hask] at hcalled
  simp only [receive, plan, hroute, hbody, hcalled, Plan.sent]

/-- An id is an address, unless it is a name. -/
theorem address_law (hx : (t, x) ∈ (reached inputs).enabledThingsOf servient) : Addresses inputs servient t x := by
  have hids := enabledThingsOf_ids (reached inputs) servient (orderly_reached inputs)
  have hfound : resolve (taking inputs servient) x.id = (named? (taking inputs servient) x.id).or (some (t, x)) :=
    resolve_id hx hids
  refine ⟨?_, hfound, ?_, ?_, ?_⟩
  · rintro r hroute ⟨body, hbody⟩
    exact receive_list hroute hbody
  · intro hown
    rw [hfound]
    rcases hn : named? (taking inputs servient) x.id with _ | ⟨u, y⟩
    · rfl
    · obtain ⟨hy, hname⟩ := of_named? hn
      obtain rfl := hown u y hy hname
      have hsame := (thing_of_enabled hy).symm.trans (thing_of_enabled hx)
      rw [Option.some.inj hsame]
      rfl
  · intro u y hu hne
    have hy : (u, y) ∈ taking inputs servient := mem_of_resolve hu
    rw [hfound] at hu
    rcases hn : named? (taking inputs servient) x.id with _ | z
    · rw [hn] at hu
      cases hu
      exact absurd rfl hne
    · rw [hn] at hu
      cases hu
      refine ⟨(of_named? hn).2, fun hid => hne ?_⟩
      exact congrArg Prod.fst (List.inj_on_of_nodup_map hids hy hx hid)
  · intro hown r route body ask hroute hkey hbody hask
    exact receive_of_resolve hroute hkey hbody hask hown

end Law

/-- A lamp and a desk, whose id is the name of the lamp. -/
def office : List Input :=
  [ .operate (.newThing 0 "urn:lamp" "Lamp" none),
    .operate (.add 0 .property (.string "on") .undefined none),
    .operate (.newThing 0 "lamp" "Desk" none),
    .operate (.add 1 .property (.string "on") .undefined none),
    .operate (.register 0 0),
    .operate (.register 0 1),
    .operate (.expose 0),
    .operate (.expose 1) ]

theorem office_addresses : ∃ x y, taking office 0 = [(0, x), (1, y)] ∧ Addresses office 0 0 x ∧ Addresses office 0 1 y ∧
    resolve (taking office 0) x.id = some (0, x) := by
  refine ⟨_, _, rfl, ?_, ?_, ?_⟩
  · exact address_law List.mem_cons_self
  · exact address_law (List.mem_cons_of_mem _ List.mem_cons_self)
  · rfl

/-- A request to read a property, for the key that is the id of the desk. -/
def look : Request := ⟨"GET", "/api/v1/things/lamp/properties/on", .none⟩

/-- The desk is enabled, and its id leads to the lamp. -/
theorem desk_unreached : ∃ x y, taking office 0 = [(0, x), (1, y)] ∧ y.id = "lamp" ∧
    resolve (taking office 0) y.id = some (0, x) ∧ (reached office).receive 0 look =
      (.waits 0 .read "GET", (reached office).step (.operate (.call 0 (.read (.string "on"))))) := by
  have hroute : Http.route look.method look.target = .found (.read "lamp" "on") := by decide +kernel
  have hvalue : look.value = .ok .undefined := rfl
  have hask : (Route.read "lamp" "on").ask? .undefined = some (.read (.string "on")) := rfl
  refine ⟨_, _, rfl, rfl, rfl, ?_⟩
  exact receive_of_resolve hroute rfl hvalue hask rfl

end Host
end ThingHost
