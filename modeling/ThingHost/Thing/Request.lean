import ThingHost.Thing

/-! What is asked of a Thing as the keeper of its interactions, and what it replies. Requests are served one after
    another; one that is refused leaves everything as it was. -/

namespace ThingHost
namespace Thing

inductive Request where
  | add (i : Interaction)
  | remove (name : String)
  | find (name : String)
  /-- The interaction of a name, if it is of a kind. -/
  | findKind (kind : InteractionKind) (name : String)
  /-- The interactions of a kind, or all of them. -/
  | list (kind : Option InteractionKind)

inductive Reply where
  | done
  | refused (e : ThingError)
  | found (i : Option Interaction)
  | listed (interactions : List Interaction)

/-- The interactions of a kind, or all of them. -/
def list (t : Thing) : Option InteractionKind → List Interaction
  | none => t.interactions
  | some kind => t.ofKind kind

/-- Serves one request. Whatever is removed is given back. -/
def serve (t : Thing) : Request → Thing × Reply
  | .add i =>
    match t.add i with
    | .ok t => (t, .done)
    | .error e => (t, .refused e)
  | .remove name => (t.remove name, .found (t.find? name))
  | .find name => (t, .found (t.find? name))
  | .findKind kind name => (t, .found (t.findKind? kind (.string name)))
  | .list kind => (t, .listed (t.list kind))

/-- Serves requests one after another. -/
def serveAll (t : Thing) : List Request → Thing × List Reply
  | [] => (t, [])
  | r :: rest =>
    let (t, reply) := t.serve r
    let (t, replies) := t.serveAll rest
    (t, reply :: replies)

end Thing
end ThingHost
