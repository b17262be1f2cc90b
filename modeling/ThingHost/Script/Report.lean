import ThingHost.Script.Follow

/-! Reports: after each command of a script the host does all the work that is left, and the report says
    what the command came to, which calls have settled, and what was seen and logged meanwhile. -/

namespace ThingHost
namespace Script
namespace Session

/-- How far a command may lead. -/
def fuel : Nat := 1000000

/-- Gives a label of a call another meaning. -/
def setTicket (n : Nat) (t : Ticket) : Run Unit :=
  modify fun s => { s with tickets := s.tickets.set n t }

/-- Takes up a request: it is replied to at once, or its call is made. -/
def takeUp (ticket servient : Nat) : Except Fault Http.Request → Run Unit
  | .error fault => setTicket ticket (.over (.error (.fault fault)))
  | .ok r => do
    let (exchange, step) := (← get).host.receive servient r
    setTicket ticket (.request exchange)
    let c ← absorb step
    discard (serve fuel c)

/-- Does all the work there is: first what is in the queue, then the requests. -/
def settle : Nat → Run Unit
  | 0 => return ()
  | n + 1 => do
    let s ← get
    match s.host.queue, s.requests with
    | _ :: _, _ =>
      let c ← input .tick
      discard (serve fuel c)
      settle n
    | [], (ticket, servient, r) :: rest =>
      set { s with requests := rest }
      takeUp ticket servient r
      settle n
    | [], [] => return ()

/-- How a call stands; a settled one counts as reported. -/
def standing (n : Nat) : Run Answer := do
  let s ← get
  match ticketOutcome? s n with
  | none => return .pending n
  | some outcome =>
    set { s with reported := n :: s.reported }
    match outcome with
    | .ok v => return .value v
    | .error t => return .failed (.thrown t)

mutual

/-- How a command stands. -/
def answerOf : Ran → Run Answer
  | .value v => return .value v
  | .failed f => return .failed f
  | .started n => standing n
  | .batch answers => return .batch (← answersOf answers)

def answersOf : List Ran → Run (List Answer)
  | [] => return []
  | r :: rest => do
    let a ← answerOf r
    let more ← answersOf rest
    return a :: more

end

/-- The calls that have settled and are not reported. -/
def newlySettled (s : Session) : List (Nat × Outcome) :=
  (List.range s.tickets.length).filterMap fun i =>
    if s.reported.contains (i + 1) then none
    else (ticketOutcome? s (i + 1)).map fun outcome => (i + 1, outcome)

/-- Runs a command of the script, and reports on it. -/
def step (command : Named) : Run Report := do
  let r ← run fuel command
  settle fuel
  let answer ← answerOf r
  let s ← get
  let settled := newlySettled s
  set { s with reported := settled.map Prod.fst ++ s.reported, seen := [], log := [] }
  return ⟨answer, settled, s.seen.reverse, if s.logging then s.log.reverse else []⟩

/-- Runs a script, and reports on each of its commands. -/
def play (logging : Bool) (script : List Named) : List Report :=
  ((script.mapM step).run (new logging)).1

end Session
end Script
end ThingHost
