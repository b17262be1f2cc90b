import ThingHost.Error
import ThingHost.Text.Slug

/-! A Thing: who it is, and the interactions it declares, in the order in which they were declared. A
    name is declared at most once, whatever the kind. -/

namespace ThingHost

structure Thing where
  id : String
  name : String
  description : Option String
  interactions : List Interaction
  deriving Repr

namespace Thing

/-- A Thing that declares nothing yet. -/
def new (id name : String) (description : Option String) : Thing := ⟨id, name, description, []⟩

def urlName (t : Thing) : String := Slug.ofName t.name

/-! ### Interactions -/

def find? (t : Thing) (name : String) : Option Interaction :=
  t.interactions.find? (·.name = name)

/-- The interaction of a name, if it is of the kind asked for. A name that is no text is nobody's. -/
def findKind? (t : Thing) (kind : InteractionKind) : Value → Option Interaction
  | .string name => (t.find? name).filter (·.kind = kind)
  | _ => none

/-- The interaction of a name and kind, or the refusal that there is none. -/
def require (t : Thing) (kind : InteractionKind) (name : Value) : Except ThingError Interaction :=
  match t.findKind? kind name with
  | some i => .ok i
  | none => .error (.notFound kind name)

/-- Declares an interaction, unless its name is taken. -/
def add (t : Thing) (i : Interaction) : Except ThingError Thing :=
  if (t.find? i.name).isSome then .error (.duplicateInteraction i.name)
  else .ok { t with interactions := t.interactions ++ [i] }

def remove (t : Thing) (name : String) : Thing :=
  { t with interactions := t.interactions.filter (·.name ≠ name) }

/-- The interactions of a kind. -/
def ofKind (t : Thing) (kind : InteractionKind) : List Interaction :=
  t.interactions.filter (·.kind = kind)

/-- The names of the interactions of a kind. -/
def names (t : Thing) (kind : InteractionKind) : List String := (t.ofKind kind).map (·.name)

end Thing
end ThingHost
