import ThingHost.Json.Writer
import ThingHost.Thing

/-! The description document of a Thing: an object that says who the Thing is and, kind by kind, what
    it declares under which name. -/

namespace ThingHost

/-- The vocabulary that the document uses. -/
def descriptionContext : String := "https://www.w3.org/2019/wot/td/v1"

/-- What the document says of one interaction. A property's entry is its data description with the
    interaction's own label and flags put in; members that are not there are left out. -/
def Interaction.describe (i : Interaction) : Value :=
  let label := Value.optional "label" (i.label.map .string)
  match i.affordance with
  | .property schema writable observable =>
    .object (Members.putAll schema
      (label ++ [("writable", .bool writable), ("observable", .bool observable)]))
  | .action input output =>
    .ofMembers (label ++ Value.optional "input" (input.map .object) ++
      Value.optional "output" (output.map .object))
  | .event data => .ofMembers (label ++ Value.optional "data" (data.map .object))

namespace Thing

/-- The entries of one kind, name by name. -/
def entries (t : Thing) (kind : InteractionKind) : Fields :=
  Members.ofList
    (((t.ofKind kind).filter (·.name ≠ Members.forbidden)).map fun i => (i.name, i.describe))

/-- The description document. -/
def toDescription (t : Thing) : Value :=
  .object ([("@context", .string descriptionContext), ("id", .string t.id), ("name", .string t.name)] ++
    Value.optional "description" (t.description.map .string) ++
    [("properties", .object (t.entries .property)), ("actions", .object (t.entries .action)),
      ("events", .object (t.entries .event))])

/-- The text of the description document, if it has one. -/
def descriptionText? (t : Thing) : Option String := Json.write? t.toDescription

end Thing
end ThingHost
