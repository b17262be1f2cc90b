import ThingHost.Host.Basic
import ThingHost.Http.Body

/-! The host over HTTP. A request either is replied to at once or makes one call to a Thing, whose
    outcome becomes the reply. Only enabled Things take part. -/

namespace ThingHost
namespace Http

/-! ### Requests -/

/-- What a request leads to. -/
inductive Plan where
  | reply (r : Response)
  | call (thing : Nat) (ask : Ask)
  deriving Repr

/-- The Thing that a key stands for: the first with this name in URLs, else the first with this id. -/
def resolve (things : List (Nat × ExposedThing)) (key : String) : Option (Nat × ExposedThing) :=
  (things.find? fun (_, x) => x.thing.urlName = key) <|> (things.find? fun (_, x) => x.id = key)

def thingNotFound : Response := refusal 404 "Thing not found"

/-- How a Thing shows in the list of Things. -/
def summary (x : ExposedThing) : Value :=
  .object [("id", .string x.id), ("name", .string x.thing.name), ("url_name", .string x.thing.urlName)]

/-- What a request for a route leads to, given the enabled Things and the value of the body. -/
def planRoute (things : List (Nat × ExposedThing)) (body : Value) : Route → Plan
  | .list => .reply (json 200 (.array (things.map fun (_, x) => summary x)))
  | .describe key =>
    match resolve things key with
    | none => .reply thingNotFound
    | some (_, x) =>
      match x.thing.descriptionText? with
      | some text => .reply ⟨200, some jsonType, text⟩
      | none => .reply (failure none Fault.unwritableNumber.message)
  | .read key name =>
    match resolve things key with
    | none => .reply thingNotFound
    | some (t, _) => .call t (.read (.string name))
  | .write key name =>
    match resolve things key with
    | none => .reply thingNotFound
    | some (t, _) =>
      match writeSchema.parse body with
      | .error issues => .reply (invalid issues)
      | .ok v => .call t (.write (.string name) (v.member "value"))
  | .invoke key name =>
    match resolve things key with
    | none => .reply thingNotFound
    | some (t, _) =>
      match invokeSchema.parse body with
      | .error issues => .reply (invalid issues)
      | .ok v => .call t (.invoke (.string name) (argumentsOf v))

/-- The reply as it is sent: a request that asks for the head alone gets no body. -/
def sent (method : String) (r : Response) : Response :=
  if method = "HEAD" then { r with body := "" } else r

def Plan.sent (method : String) : Plan → Plan
  | .reply r => .reply (Http.sent method r)
  | .call thing ask => .call thing ask

/-- The methods with a body that is read. -/
def takesBody (method : String) : Bool := ["DELETE", "OPTIONS", "PATCH", "POST", "PUT"].contains method

/-- The value that a request carries. -/
def Request.value (r : Request) : Except BodyFault Value :=
  if takesBody r.method then bodyValue r.body else .ok .undefined

/-- What a request leads to, given the enabled Things. A body is read even where there is no resource,
    but there it may be of any type. -/
def plan (things : List (Nat × ExposedThing)) (r : Request) : Plan :=
  Plan.sent r.method (match route r.method r.target, r.value with
    | .badUrl target, _ =>
      .reply (malformed 400 "FST_ERR_BAD_URL" ("'" ++ target ++ "' is not a valid url component"))
    | .tooLong path, _ =>
      .reply (malformed 414 "FST_ERR_MAX_PARAM_LENGTH" ("'" ++ path ++ "' is exceeding the max param length"))
    | .unknown, .ok _ => .reply (unknownRoute r.method r.target)
    | .unknown, .error .unknownType => .reply (unknownRoute r.method r.target)
    | .unknown, .error fault => .reply fault.response
    | .found _, .error fault => .reply fault.response
    | .found route, .ok body => planRoute things body route)

/-! ### Outcomes -/

/-- The status of a refusal that is the client's to mend. -/
def statusFor : ThingError → Option Nat
  | .notFound .. => some 404
  | .notWritable _ => some 405
  | .undefinedActionHandler => some 501
  | _ => none

/-- A number that is the status of a failure, with what stands behind its point cut off. -/
def asStatus? (v : Value) : Option Nat :=
  let x := Schema.toNumber v
  if x.below 400 || x.above 599 then none else x.truncated?.map Int.toNat

/-- The status that a thrown value asks for, if it asks for that of a failure. -/
def statusOf (v : Value) : Nat :=
  ((asStatus? (v.member "statusCode")) <|> (asStatus? (v.member "status"))).getD 500

/-- The reply to a call that was refused or failed. A thrown value that is no error is itself the
    body. -/
def failed : Thrown → Response
  | .refusal e =>
    match statusFor e with
    | some status => refusal status e.message
    | none => failure e.code e.message
  | .fault f => failure none f.message
  | .failure _ message => failure none message
  | .value .undefined => ⟨500, none, ""⟩
  | .value (.string s) => ⟨500, some "text/plain; charset=utf-8", s.map Text.scalar⟩
  | .value v => if Json.holdsBigint v then failure none "cb is not a function" else json (statusOf v) v

/-- A reply with a value, where the value has JSON text. -/
def success (key : String) (v : Value) : Response :=
  match Json.write? (.object [(key, v.orNull)]) with
  | some text => ⟨200, some jsonType, text⟩
  | none => failure none Fault.unwritableNumber.message

/-- The reply to a request whose call has settled. -/
def answer (kind : CallKind) : Outcome → Response
  | .error t => failed t
  | .ok v =>
    match kind with
    | .read => success "value" v
    | .write => ⟨204, none, ""⟩
    | .invoke => success "result" v

end Http
end ThingHost
