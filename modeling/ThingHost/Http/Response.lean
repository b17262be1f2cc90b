import ThingHost.Http.Route
import ThingHost.Json.Writer
import ThingHost.Schema.Issue

/-! The replies that a host gives over HTTP. -/

namespace ThingHost
namespace Http

def jsonType : String := "application/json; charset=utf-8"

def json (status : Nat) (v : Value) : Response := ⟨status, some jsonType, Json.write v⟩

/-- A refusal in one sentence. -/
def refusal (status : Nat) (message : String) : Response :=
  json status (.object [("error", .string message)])

/-- A failure inside the host or a client's code, with its code word if it has one. -/
def failure (code : Option String) (message : String) : Response :=
  json 500 (.object ([("statusCode", .ofNat 500)] ++ Value.optional "code" (code.map .string) ++
    [("error", .string "Internal Server Error"), ("message", .string message)]))

def unknownRoute (method target : String) : Response :=
  json 404 (.object [("message", .string ("Route " ++ method ++ ":" ++ target ++ " not found")),
    ("error", .string "Not Found"), ("statusCode", .ofNat 404)])

/-- A request that is refused before it is routed. The message is written as it is. -/
def malformed (status : Nat) (code message : String) : Response :=
  ⟨status, some "application/json", "\x7b\"error\":\"Bad Request\",\"code\":\"" ++ code ++
    "\",\"message\":\"" ++ message ++ "\",\"statusCode\":" ++ toString status ++ "\x7d"⟩

/-- A body that cannot be read. -/
def badBody (status : Nat) (error code message : String) : Response :=
  json status (.object [("statusCode", .ofNat status), ("code", .string code),
    ("error", .string error), ("message", .string message)])

/-- An issue with a body, with what was expected and what was there. -/
def issueValue (i : Issue) : Value :=
  let path : Value := .array (i.path.map PathStep.toValue)
  match i.cause with
  | .wrongType expected received =>
    .object [("code", .string "invalid_type"), ("expected", .string expected),
      ("received", .string received), ("path", path), ("message", .string i.message)]
  | _ => .object [("code", .string "custom"), ("message", .string i.message), ("path", path)]

def invalid (issues : List Issue) : Response :=
  json 400 (.object [("error", .string "Validation failed"), ("issues", .array (issues.map issueValue))])

end Http
end ThingHost
