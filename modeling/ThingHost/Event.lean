import ThingHost.Interaction

/-! What a Thing emits: notifications about its own changes, whose name is their type, and the events
    that its application emits under names of its own. The names of the notifications are reserved, so
    the name alone tells them apart. -/

namespace ThingHost

/-- The notifications a Thing sends about itself. -/
inductive Notification where
  | propertyChange
  | actionInvocation
  | descriptionChange
  deriving DecidableEq, Repr

namespace Notification

def name : Notification → String
  | .propertyChange => "propertychange"
  | .actionInvocation => "actioninvocation"
  | .descriptionChange => "descriptionchange"

def all : List Notification := [propertyChange, actionInvocation, descriptionChange]

def ofName? (s : String) : Option Notification := all.find? (·.name = s)

end Notification

/-- A name that no event of an application may have. -/
def isReserved (name : String) : Bool := Notification.all.any (·.name = name)

/-- What is emitted. -/
inductive Event where
  | notification (about : Notification) (data : Fields)
  | user (name data : Value)
  deriving Repr, Inhabited

namespace Event

def typeName : Event → String
  | .notification about _ => about.name
  | .user .. => "user"

def name : Event → Value
  | .notification about _ => .string about.name
  | .user name _ => name

def data : Event → Value
  | .notification _ data => .object data
  | .user _ data => data

/-! ### The notifications -/

/-- A property was written. -/
def propertyChange (name value : Value) : Event :=
  .notification .propertyChange [("name", name), ("value", value)]

/-- An action was invoked. -/
def actionInvocation (name result : Value) : Event :=
  .notification .actionInvocation [("actionName", name), ("returnValue", result)]

/-- An interaction was declared; carries its definition and what the Thing then looks like. -/
def added (kind : InteractionKind) (name : String) (definition description : Value) : Event :=
  .notification .descriptionChange
    [("changeType", .string kind.name), ("method", .string "add"), ("name", .string name),
      ("data", definition), ("description", description)]

/-- An interaction is declared no longer. -/
def removed (kind : InteractionKind) (name : String) : Event :=
  .notification .descriptionChange
    [("changeType", .string kind.name), ("method", .string "remove"), ("name", .string name)]

/-! ### Kinds of event -/

def isUser (name : String) : Event → Bool
  | .user (.string n) _ => n = name
  | _ => false

/-- The property's value changed. -/
def isChangeOf (property : String) : Event → Bool
  | .notification .propertyChange data =>
    match Members.get? "name" data with
    | some (.string n) => n = property
    | _ => false
  | _ => false

def isDescriptionChange : Event → Bool
  | .notification .descriptionChange _ => true
  | _ => false

/-- An event as a value. -/
def toValue (e : Event) : Value :=
  .object [("type", .string e.typeName), ("name", e.name), ("data", e.data)]

end Event
end ThingHost
