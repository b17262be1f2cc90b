import ThingHost.Host.Step
import ThingHost.Http.Binding

/-! Requests that reach a host. The reply to a request that makes a call is there when the call has settled. -/

namespace ThingHost
namespace Http

/-- What has become of a request that was taken up. -/
inductive Exchange where
  | replied (r : Response)
  /-- It waits for the call it made. -/
  | waits (call : Nat) (kind : CallKind) (method : String)
  deriving DecidableEq, Repr

end Http

namespace Host

/-- Takes up a request to a servient: it is replied to at once, or its call is made. -/
def receive (h : Host) (servient : Nat) (r : Http.Request) : Http.Exchange × Step :=
  match Http.plan (h.enabledThingsOf servient) r with
  | .reply response => (.replied response, h, [])
  | .call t ask => (.waits h.calls.length ask.kind r.method, h.step (.operate (.call t ask)))

/-- The outcome of a call, once it is settled. -/
def settled? (h : Host) (n : Nat) : Option Outcome :=
  match h.calls[n]? with
  | some { progress := .settled outcome, .. } => some outcome
  | _ => none

end Host

/-- The reply to a request, once it is there. -/
def Http.Exchange.response? (h : Host) : Exchange → Option Response
  | .replied r => some r
  | .waits n kind method => (h.settled? n).map fun o => sent method (answer kind o)

end ThingHost
