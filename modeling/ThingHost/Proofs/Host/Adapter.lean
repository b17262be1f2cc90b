import ThingHost.Proofs.Host.Isolation
import ThingHost.Proofs.Http.Plan

/-! The host over HTTP does what the host does. A request for an interaction of an enabled Thing makes the one call
    that it stands for, has the effects of that call and no others, and is replied to with what the call came to, when
    it has come to it. A request that finds no Thing or carries the wrong body leaves everything as it is. -/

namespace ThingHost
namespace Host

open Http

section Statement
variable (earlier : List Input) (servient : Nat) (r : Request)

/-- The request makes one call to the Thing `x`, which has the number `t`. -/
structure Performs (t : Nat) (x : ExposedThing) (ask : Ask) : Prop where
  there : (reached earlier).things[t]? = some x
  step : (reached earlier).receive servient r =
    (.waits (callNumber earlier) ask.kind r.method, (reached earlier).step (.operate (.call t ask)))
  /-- There is no reply before the call has settled, -/
  pending : ∀ later, settlements (callNumber earlier) (during earlier t ask later) = [] →
    (Exchange.waits (callNumber earlier) ask.kind r.method).response? (reached (during earlier t ask later)) = none
  /-- and when it has, the reply says how, whatever has become of the Thing. -/
  replies : ∀ later o, settlements (callNumber earlier) (during earlier t ask later) = [o] →
    ∃ response, Replies r.method ask.kind o response ∧
      (Exchange.waits (callNumber earlier) ask.kind r.method).response? (reached (during earlier t ask later)) = some response
  /-- A call to what the Thing does not have is refused, -/
  unknown : x.thing.findKind? (ExposedThing.target ask.kind) ask.name = none → ∀ later,
    (Exchange.waits (callNumber earlier) ask.kind r.method).response? (reached (during earlier t ask later)) =
      some (carrying r.method 404 (errorText (ThingError.notFound (ExposedThing.target ask.kind) ask.name).message))
  /-- and so is a write to what may not be written. -/
  locked : ∀ i, x.thing.findKind? (ExposedThing.target ask.kind) ask.name = some i → ask.kind = .write →
    i.writable = false → ∀ later,
    (Exchange.waits (callNumber earlier) ask.kind r.method).response? (reached (during earlier t ask later)) =
      some (carrying r.method 405 (errorText (ThingError.notWritable i.name).message))

/-- A request for an interaction of the Thing with a key, with a body. -/
structure Adapts (route : Route) (key : String) (body : Value) : Prop where
  missing : (∀ t x, (t, x) ∈ (reached earlier).enabledThingsOf servient → x.thing.urlName ≠ key ∧ x.id ≠ key) →
    (reached earlier).receive servient r =
      (.replied (carrying r.method 404 (errorText "Thing not found")), reached earlier, [])
  misfit : ∀ t x, sought ((reached earlier).enabledThingsOf servient) key = some (t, x) → route.ask? body = none →
    (reached earlier).receive servient r = (.replied (carrying r.method 400 (Json.write (.object
      [("error", .string "Validation failed"), ("issues", .array [complaint body route])]))), reached earlier, [])
  performs : ∀ t x ask, sought ((reached earlier).enabledThingsOf servient) key = some (t, x) →
    route.ask? body = some ask → Performs earlier servient r t x ask

end Statement

section Law
variable {earlier : List Input} {servient : Nat} {r : Request} {route : Route} {key : String} {body : Value}
  {t n : Nat} {x : ExposedThing} {ask : Ask}

/-- How far a call is tells how it settled. -/
theorem settled_of_stand {c : Call} {waits : List Wait} {queue answers settled : List Outcome}
    {invoked : List (Nat × List Value)} (h : Stand n (some c) waits queue invoked answers settled) :
    settled.head? = match c.progress with
      | .settled o => some o
      | _ => none := by
  cases h with
  | refused accepted progress => rw [progress]; rfl
  | running accepted progress => rw [progress]; rfl
  | waiting accepted progress => rw [progress]; rfl
  | queued accepted progress => rw [progress]; rfl
  | ending accepted progress => rw [progress]; rfl
  | settled accepted progress => rw [progress]; rfl

theorem settled?_eq (inputs : List Input) (n : Nat) : (reached inputs).settled? n = (settlements n inputs).head? := by
  have hstand := stands inputs n
  unfold settled?
  cases hc : (reached inputs).calls[n]? with
  | none =>
    rw [hc] at hstand
    rw [hstand.of_none.2.2.2.2]
    rfl
  | some c =>
    rw [hc] at hstand
    rw [settled_of_stand hstand]
    obtain ⟨thing, ask, accepted, progress⟩ := c
    cases progress <;> rfl

/-- The Things that take part over HTTP are there. -/
theorem thing_of_enabled {h : Host} (hx : (t, x) ∈ h.enabledThingsOf servient) : h.things[t]? = some x := by
  unfold enabledThingsOf at hx
  cases hs : h.servients[servient]? with
  | none => simp [hs] at hx
  | some s =>
    rw [hs] at hx
    obtain ⟨e, -, he⟩ := List.mem_filterMap.mp hx
    obtain ⟨y, hy, heq⟩ := Option.map_eq_some_iff.mp he
    cases heq
    exact hy

theorem response?_of_settled {inputs : List Input} {o : Outcome} (hs : settlements n inputs = [o]) (kind : CallKind)
    (method : String) :
    (Exchange.waits n kind method).response? (reached inputs) = some (sent method (answer kind o)) := by
  rw [Exchange.response?, settled?_eq, hs]
  rfl

theorem asked_name (hask : route.ask? body = some ask) : ∃ name, ask.name = .string name := by
  cases route with
  | read thing name =>
    cases hask
    exact ⟨name, rfl⟩
  | write thing name =>
    obtain ⟨v, -, rfl⟩ := Option.map_eq_some_iff.mp hask
    exact ⟨name, rfl⟩
  | invoke thing name =>
    obtain ⟨arguments, -, rfl⟩ := Option.map_eq_some_iff.mp hask
    exact ⟨name, rfl⟩
  | _ => cases hask

theorem performs_of_receive (hx : (reached earlier).things[t]? = some x) (hname : ∃ name, ask.name = .string name)
    (hstep : (reached earlier).receive servient r =
      (.waits (callNumber earlier) ask.kind r.method, (reached earlier).step (.operate (.call t ask)))) :
    Performs earlier servient r t x ask := by
  refine ⟨hx, hstep, fun later hnone => ?_, fun later o ho => ?_, fun hfound later => ?_, fun i hi hw hlocked later => ?_⟩
  · rw [Exchange.response?, settled?_eq, hnone]
    rfl
  · exact ⟨_, replies_answer r.method ask.kind o, response?_of_settled ho ask.kind r.method⟩
  · obtain ⟨name, hname⟩ := hname
    have hs := (refused_of_accept hx (ExposedThing.accept_of_missing hfound) later).settled
    rw [response?_of_settled hs, hname, ← sent_refusal]
    rfl
  · have hs := (refused_of_accept hx (ExposedThing.accept_of_locked hi hw hlocked) later).settled
    rw [response?_of_settled hs, ← sent_refusal]
    rfl

/-- Over HTTP a call is made to an enabled Thing as it would be made to it without. -/
theorem adapter_law (hroute : Http.route r.method r.target = .found route) (hkey : route.called? = some key)
    (hbody : r.value = .ok body) : Adapts earlier servient r route key body := by
  have hplan : plan ((reached earlier).enabledThingsOf servient) r =
      Plan.sent r.method (planRoute ((reached earlier).enabledThingsOf servient) body route) := by
    simp only [plan, hroute, hbody]
  have hcalled := planRoute_of_called ((reached earlier).enabledThingsOf servient) hkey body
  rw [resolve_eq] at hcalled
  refine ⟨fun hnone => ?_, fun t x hfound hmisfit => ?_, fun t x ask hfound hask => ?_⟩
  · rw [sought_eq_none.mpr hnone] at hcalled
    rw [receive, hplan, hcalled, ← sent_refusal]
    rfl
  · rw [hfound, hmisfit] at hcalled
    obtain ⟨issue, hreply, hsays⟩ := hcalled
    rw [receive, hplan, hreply, ← hsays, ← sent_json]
    rfl
  · rw [hfound, hask] at hcalled
    refine performs_of_receive (thing_of_enabled (mem_of_resolve (resolve_eq _ _ ▸ hfound))) (asked_name hask) ?_
    rw [receive, hplan, hcalled]
    rfl

/-- A bell that is registered and enabled; a client rings it. -/
def porch : List Input :=
  [ .operate (.newThing 0 "urn:bell" "Porch Bell" none),
    .operate (.add 0 .action (.string "ring") .undefined (some 7)),
    .operate (.register 0 0),
    .operate (.expose 0) ]

/-- A request to ring it, without a body. -/
def ring : Request := ⟨"POST", "/api/v1/things/porch-bell/actions/ring", .none⟩

/-- One that carries what is no object. -/
def knock : Request := ⟨"POST", "/api/v1/things/porch-bell/actions/ring", .text "application/json" "true"⟩

/-- The body of a request is `true`. -/
def affirms (req : Request) : Bool :=
  match req.value with
  | .ok (.bool b) => b
  | _ => false

theorem value_of_affirms {req : Request} (h : affirms req = true) : req.value = .ok (.bool true) := by
  rw [affirms] at h
  split at h
  · rename_i b hb
    rw [hb, h]
  · cases h

/-- Whoever rings is told what the bell says, and whoever knocks is told what is wrong with that. -/
theorem porch_adapts : Adapts porch 0 ring (.invoke "porch-bell" "ring") "porch-bell" .undefined ∧
    (reached porch).receive 0 ring =
      (.waits 0 .invoke "POST", (reached porch).step (.operate (.call 0 (.invoke (.string "ring") [])))) ∧
    ((reached porch).step (.operate (.call 0 (.invoke (.string "ring") [])))).2.getLast? = some (.callHandler 7 0 []) ∧
    (Exchange.waits 0 .invoke "POST").response? (reached (during porch 0 (.invoke (.string "ring") [])
        [.reply (.done (.string "ding")), .tick])) =
      some ⟨200, some "application/json; charset=utf-8", "\x7b\"result\":\"ding\"\x7d"⟩ ∧
    (reached porch).receive 0 knock = (.replied ⟨400, some "application/json; charset=utf-8",
      "\x7b\"error\":\"Validation failed\",\"issues\":[\x7b\"code\":\"invalid_type\",\"expected\":\"object\"," ++
      "\"received\":\"boolean\",\"path\":[],\"message\":\"Expected object, received boolean\"\x7d]\x7d"⟩, reached porch, []) := by
  obtain ⟨x, hthings, hname⟩ : ∃ x, (reached porch).enabledThingsOf 0 = [(0, x)] ∧ x.thing.urlName = "porch-bell" :=
    ⟨_, rfl, by decide +kernel⟩
  have hfound : sought ((reached porch).enabledThingsOf 0) "porch-bell" = some (0, x) := by simp [sought, hthings, hname]
  have hring : Adapts porch 0 ring (.invoke "porch-bell" "ring") "porch-bell" .undefined :=
    adapter_law (by decide +kernel) rfl rfl
  have hknock : Adapts porch 0 knock (.invoke "porch-bell" "ring") "porch-bell" (.bool true) :=
    adapter_law (by decide +kernel) rfl (value_of_affirms (by decide +kernel))
  refine ⟨hring, (hring.performs 0 x _ hfound rfl).step, rfl, by decide +kernel, ?_⟩
  rw [hknock.misfit 0 x hfound rfl, carrying, if_neg (by decide)]
  exact congrArg (fun text => (Exchange.replied ⟨400, some "application/json; charset=utf-8", text⟩, reached porch, []))
    (by decide +kernel)

end Law

end Host
end ThingHost
