import ThingHost.Http.Exchange
import ThingHost.Proofs.Schema

/-! What a request asks of a Thing, and how the outcome of its call is put into a reply. A request for an interaction
    is looked at in a fixed order: first the Thing it is for, then its body. -/

namespace ThingHost
namespace Http

/-! ### Requests for an interaction -/

/-- The Thing that a request is for, if it is for an interaction of one. -/
def Route.called? : Route → Option String
  | .read thing _ => some thing
  | .write thing _ => some thing
  | .invoke thing _ => some thing
  | _ => none

/-- The arguments that the body of an invocation gives. There may be no body, and no arguments in it. -/
def arguments? : Value → Option (List Value)
  | .undefined => some []
  | .object members =>
    match (Members.get? "args" members).getD .undefined with
    | .undefined => some []
    | .array items => some items
    | _ => none
  | _ => none

/-- The Thing that a key is for: the first that has it for its name in URLs, and if there is none the first that has it
    for its id. -/
def sought (things : List (Nat × ExposedThing)) (key : String) : Option (Nat × ExposedThing) :=
  (things.find? fun x => x.2.thing.urlName = key).or (things.find? fun x => x.2.id = key)

/-- What a request asks of the Thing it is for, if its body fits. -/
def Route.ask? (body : Value) : Route → Option Ask
  | .read _ name => some (.read (.string name))
  | .write _ name => (body.member? "value").map (.write (.string name))
  | .invoke _ name => (arguments? body).map (.invoke (.string name))
  | _ => none

/-- What is said of a part of a body that is not of the type it has to be of. -/
def mistyped (path : List Value) (expected received : String) : Value :=
  .object [("code", .string "invalid_type"), ("expected", .string expected), ("received", .string received),
    ("path", .array path), ("message", .string (if received = "undefined" then "Required"
      else "Expected " ++ expected ++ ", received " ++ received))]

/-- What is said of the body of a request that does not fit. -/
def complaint (body : Value) : Route → Value
  | .write .. =>
    match body with
    | .object _ => .object [("code", .string "custom"), ("message", .string "value is required"), ("path", .array [])]
    | _ => mistyped [] "object" body.typeName
  | _ =>
    match body with
    | .object members => mistyped [.string "args"] "array" ((Members.get? "args" members).getD .undefined).typeName
    | _ => mistyped [] "object" body.typeName

/-- The reply with a JSON text, as it goes out for a method: who asks for the head alone gets no body. -/
def carrying (method : String) (status : Nat) (text : String) : Response :=
  ⟨status, some "application/json; charset=utf-8", if method = "HEAD" then "" else text⟩

/-- The text that says why a request is refused. -/
def errorText (message : String) : String := Json.write (.object [("error", .string message)])

theorem sent_json (method : String) (status : Nat) (text : String) :
    sent method ⟨status, some jsonType, text⟩ = carrying method status text := by
  unfold sent carrying
  split <;> rfl

theorem sent_refusal (method : String) (status : Nat) (message : String) :
    sent method (refusal status message) = carrying method status (errorText message) := sent_json method status _

theorem sent_empty (method : String) (status : Nat) : sent method ⟨status, none, ""⟩ = ⟨status, none, ""⟩ := by
  unfold sent
  split <;> rfl

section Bodies
variable {body : Value}

/-- An object of one field. -/
theorem check_field {key : String} {s : Schema} {given : Fields} {w : Value} :
    Schema.check (.shape [(key, s)]) (.object given) = .ok w ↔
      ∃ a, s.check ((Members.get? key given).getD .undefined) = .ok a ∧
        w = .object ([(key, a)].filter fun m => !m.2.isUndefined || Members.has m.1 given) := by
  rw [Schema.check_shape]
  constructor
  · rintro ⟨_, all, ⟨⟩, rfl, hall⟩
    obtain ⟨m, rest, ⟨hkey, hcheck⟩, hrest, rfl⟩ := List.forall₂_cons_left_iff.mp hall
    obtain rfl := List.forall₂_nil_left_iff.mp hrest
    obtain ⟨k, a⟩ := m
    cases hkey
    exact ⟨a, hcheck, rfl⟩
  · rintro ⟨a, hcheck, rfl⟩
    exact ⟨given, [(key, a)], rfl, rfl, .cons ⟨rfl, hcheck⟩ .nil⟩

/-- The body of a write fits if it is an object that has a value. -/
theorem write_body (thing name : String) (body : Value) : match body.member? "value" with
    | some w => ∃ v, writeSchema.parse body = .ok v ∧ v.member "value" = w
    | none => ∃ issue, writeSchema.parse body = .error [issue] ∧ issueValue issue = complaint body (.write thing name) := by
  cases body with
  | object given =>
    cases hget : Members.get? "value" given with
    | some w =>
      have hmember : (Value.object given).member? "value" = some w := hget
      have hkept : [("value", w)].filter (fun m => !m.2.isUndefined || Members.has m.1 given) = [("value", w)] := by
        simp [Members.has, hget]
      have hcheck : Schema.check (.shape [("value", .unknown)]) (.object given) = .ok (.object [("value", w)]) := by
        refine check_field.mpr ⟨w, ?_, congrArg Value.object hkept.symm⟩
        rw [hget]
        rfl
      rw [hmember]
      exact ⟨_, Schema.parse_eq_ok.mpr (Schema.check_lawful.mpr ⟨hcheck, rfl⟩), rfl⟩
    | none =>
      have hmember : (Value.object given).member? "value" = none := hget
      have hcheck : Schema.check (.shape [("value", .unknown)]) (.object given) = .ok (.object []) := by
        refine check_field.mpr ⟨.undefined, ?_, ?_⟩
        · rw [hget]
          rfl
        · simp [Members.has, hget, Value.isUndefined]
      rw [hmember]
      refine ⟨⟨[], .valueRequired⟩, ?_, rfl⟩
      rw [writeSchema, Schema.parse, Schema.check, hcheck]
      rfl
  | _ => exact ⟨_, rfl, rfl⟩

/-- The elements of a list may be anything. -/
theorem check_anyList {v w : Value} : Schema.check (.list .unknown) v = .ok w ↔ ∃ items, v = .array items ∧ w = v := by
  rw [Schema.check_list]
  constructor
  · rintro ⟨items, items', rfl, rfl, hall⟩
    have hsame : List.Forall₂ (· = ·) items items' := by
      refine hall.imp fun a b hab => ?_
      rw [Schema.check] at hab
      exact Option.some.inj (congrArg Report.result hab)
    rw [List.forall₂_eq_eq_eq] at hsame
    exact ⟨items, rfl, by rw [hsame]⟩
  · rintro ⟨items, rfl, rfl⟩
    exact ⟨items, items, rfl, rfl, List.forall₂_same.mpr fun _ _ => rfl⟩

/-- The body of an invocation fits if there is none, or if it is an object whose arguments, if any, are an array. -/
theorem invoke_body (thing name : String) (body : Value) : match arguments? body with
    | some items => ∃ v, invokeSchema.parse body = .ok v ∧ argumentsOf v = items
    | none => ∃ issue, invokeSchema.parse body = .error [issue] ∧
        issueValue issue = complaint body (.invoke thing name) := by
  have hfits : ∀ given items, Schema.check (.withDefault (.list .unknown) (.array []))
        ((Members.get? "args" given).getD .undefined) = .ok (.array items) →
      invokeSchema.parse (.object given) = .ok (.object [("args", .array items)]) :=
    fun given items hargs => Schema.parse_eq_ok.mpr (check_field.mpr ⟨_, hargs, rfl⟩)
  cases body with
  | undefined => exact ⟨.object [("args", .array [])], hfits [] [] (check_anyList.mpr ⟨[], rfl, rfl⟩), rfl⟩
  | object given =>
    simp only [arguments?]
    cases hargs : (Members.get? "args" given).getD .undefined with
    | undefined =>
      refine ⟨_, hfits given [] ?_, rfl⟩
      rw [hargs]
      exact check_anyList.mpr ⟨[], rfl, rfl⟩
    | array items =>
      refine ⟨_, hfits given items ?_, rfl⟩
      rw [hargs]
      exact check_anyList.mpr ⟨items, rfl, rfl⟩
    | _ =>
      have hparse : invokeSchema.parse (.object given) = (Schema.ofShape given [("args", Schema.check
          (.withDefault (.list .unknown) (.array [])) ((Members.get? "args" given).getD .undefined))]).toExcept := rfl
      rw [hparse, hargs]
      simp only [complaint, hargs]
      exact ⟨_, rfl, rfl⟩
  | _ => exact ⟨_, rfl, rfl⟩

end Bodies

/-- A request for an interaction is replied to if there is no such Thing or its body does not fit; else it makes a
    call. -/
theorem planRoute_of_called (things : List (Nat × ExposedThing)) {route : Route} {key : String}
    (hkey : route.called? = some key) (body : Value) : match resolve things key with
      | none => planRoute things body route = .reply thingNotFound
      | some (t, _) => match route.ask? body with
        | some ask => planRoute things body route = .call t ask
        | none => ∃ issue, planRoute things body route = .reply (invalid [issue]) ∧ issueValue issue = complaint body route := by
  cases route with
  | list => cases hkey
  | describe thing => cases hkey
  | read thing name =>
    cases hkey
    cases hr : resolve things key <;> simp [planRoute, hr, Route.ask?]
  | write thing name =>
    cases hkey
    have hbody := write_body key name body
    cases hr : resolve things key with
    | none => simp [planRoute, hr]
    | some found =>
      cases hvalue : body.member? "value" with
      | some w =>
        rw [hvalue] at hbody
        obtain ⟨v, hparse, rfl⟩ := hbody
        simp [planRoute, hr, Route.ask?, hvalue, hparse]
      | none =>
        rw [hvalue] at hbody
        obtain ⟨issue, hparse, hsays⟩ := hbody
        simpa [planRoute, hr, Route.ask?, hvalue] using ⟨issue, by rw [hparse], hsays⟩
  | invoke thing name =>
    cases hkey
    have hbody := invoke_body key name body
    cases hr : resolve things key with
    | none => simp [planRoute, hr]
    | some found =>
      cases hvalue : arguments? body with
      | some items =>
        rw [hvalue] at hbody
        obtain ⟨v, hparse, rfl⟩ := hbody
        simp [planRoute, hr, Route.ask?, hvalue, hparse]
      | none =>
        rw [hvalue] at hbody
        obtain ⟨issue, hparse, hsays⟩ := hbody
        simpa [planRoute, hr, Route.ask?, hvalue] using ⟨issue, by rw [hparse], hsays⟩

theorem resolve_eq (things : List (Nat × ExposedThing)) (key : String) : resolve things key = sought things key := by
  cases h : things.find? fun x => x.2.thing.urlName = key <;> simp [resolve, sought, h]

/-- No Thing is found if none has the key for its name in URLs or for its id. -/
theorem sought_eq_none {things : List (Nat × ExposedThing)} {key : String} : sought things key = none ↔
    ∀ t x, (t, x) ∈ things → x.thing.urlName ≠ key ∧ x.id ≠ key := by
  simp only [sought, Option.or_eq_none_iff, List.find?_eq_none, decide_eq_true_eq]
  constructor
  · rintro ⟨hname, hid⟩ t x hx
    exact ⟨hname (t, x) hx, hid (t, x) hx⟩
  · intro h
    exact ⟨fun x hx => (h x.1 x.2 hx).1, fun x hx => (h x.1 x.2 hx).2⟩

theorem mem_of_resolve {things : List (Nat × ExposedThing)} {key : String} {found : Nat × ExposedThing}
    (h : resolve things key = some found) : found ∈ things := by
  rw [resolve_eq, sought, Option.or_eq_some_iff] at h
  rcases h with h | ⟨-, h⟩
  · exact List.mem_of_find?_eq_some h
  · exact List.mem_of_find?_eq_some h

/-! ### Other numbers -/

/-- What a request leads to if Things have other numbers. -/
def Plan.renumber (f : Nat → Nat) : Plan → Plan
  | .reply r => .reply r
  | .call t ask => .call (f t) ask

section Renumber
variable (f : Nat → Nat) (things : List (Nat × ExposedThing))

theorem resolve_renumber (key : String) :
    resolve (things.map (Prod.map f id)) key = (resolve things key).map (Prod.map f id) := by
  simp only [resolve_eq, sought, List.find?_map, Option.map_or]
  rfl

theorem planRoute_renumber (body : Value) (route : Route) :
    planRoute (things.map (Prod.map f id)) body route = (planRoute things body route).renumber f := by
  cases route with
  | list =>
    simp only [planRoute, List.map_map]
    rfl
  | describe key =>
    simp only [planRoute, resolve_renumber]
    cases resolve things key with
    | none => rfl
    | some found =>
      simp only [Option.map_some, Prod.map, id]
      cases found.2.thing.descriptionText? <;> rfl
  | read key name =>
    simp only [planRoute, resolve_renumber]
    cases resolve things key <;> rfl
  | write key name =>
    simp only [planRoute, resolve_renumber]
    cases resolve things key with
    | none => rfl
    | some found => cases writeSchema.parse body <;> simp [Plan.renumber]
  | invoke key name =>
    simp only [planRoute, resolve_renumber]
    cases resolve things key with
    | none => rfl
    | some found => cases invokeSchema.parse body <;> simp [Plan.renumber]

/-- What a request leads to has nothing to do with the numbers of Things. -/
theorem plan_renumber (r : Request) : plan (things.map (Prod.map f id)) r = (plan things r).renumber f := by
  have hsent : ∀ p : Plan, Plan.sent r.method (p.renumber f) = (Plan.sent r.method p).renumber f := by
    intro p
    cases p <;> rfl
  unfold plan
  rw [← hsent]
  refine congrArg _ ?_
  cases route r.method r.target with
  | found route =>
    cases r.value with
    | error fault => rfl
    | ok body => exact planRoute_renumber f things body route
  | unknown =>
    cases r.value with
    | error fault => cases fault <;> rfl
    | ok body => rfl
  | _ => rfl

end Renumber

/-! ### Replies -/

/-- A value as it is replied with: nothing is given as null. -/
def given : Value → Value
  | .undefined => .null
  | v => v

/-- The reply `r` to a request of a method says what a call of a kind came to. Where the value has no JSON text nothing
    is said. -/
structure Replies (method : String) (kind : CallKind) (o : Outcome) (r : Response) : Prop where
  read : ∀ v text, kind = .read → o = .ok v → Json.write? (.object [("value", given v)]) = some text →
    r = carrying method 200 text
  written : ∀ v, kind = .write → o = .ok v → r = ⟨204, none, ""⟩
  invoked : ∀ v text, kind = .invoke → o = .ok v → Json.write? (.object [("result", given v)]) = some text →
    r = carrying method 200 text
  notFound : ∀ k name, o = .error (.refusal (.notFound k name)) →
    r = carrying method 404 (errorText (ThingError.notFound k name).message)
  notWritable : ∀ name, o = .error (.refusal (.notWritable name)) →
    r = carrying method 405 (errorText (ThingError.notWritable name).message)
  noHandler : o = .error (.refusal .undefinedActionHandler) →
    r = carrying method 501 (errorText ThingError.undefinedActionHandler.message)
  /-- Any other error is the host's own failure. -/
  failed : ∀ t, o = .error t → (∀ v, t ≠ .value v) → (∀ k name, t ≠ .refusal (.notFound k name)) →
    (∀ name, t ≠ .refusal (.notWritable name)) → t ≠ .refusal .undefinedActionHandler → r.status = 500

theorem given_eq (v : Value) : given v = v.orNull := by
  cases v <;> rfl

theorem sent_status (method : String) (r : Response) : (sent method r).status = r.status := by
  unfold sent
  split <;> rfl

theorem replies_answer (method : String) (kind : CallKind) (o : Outcome) :
    Replies method kind o (sent method (answer kind o)) where
  read := by
    rintro v text rfl rfl htext
    rw [given_eq] at htext
    simp only [answer, success, htext, sent_json]
  written := by
    rintro v rfl rfl
    exact sent_empty method 204
  invoked := by
    rintro v text rfl rfl htext
    rw [given_eq] at htext
    simp only [answer, success, htext, sent_json]
  notFound := by
    rintro k name rfl
    exact sent_refusal method 404 _
  notWritable := by
    rintro name rfl
    exact sent_refusal method 405 _
  noHandler := by
    rintro rfl
    exact sent_refusal method 501 _
  failed := by
    rintro t rfl hvalue hfound hwritable hhandler
    rw [sent_status]
    cases t with
    | value v => exact absurd rfl (hvalue v)
    | fault f => rfl
    | failure name message => rfl
    | refusal e =>
      cases e with
      | notFound k name => exact absurd rfl (hfound k name)
      | notWritable name => exact absurd rfl (hwritable name)
      | undefinedActionHandler => exact absurd rfl hhandler
      | _ => rfl

end Http
end ThingHost
