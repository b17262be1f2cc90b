import ThingHost.Error
import ThingHost.Event
import ThingHost.Schema.Basic

/-! Definitions: what an application gives to declare an interaction or a whole Thing, the schemas such
    values must fit, and what they say once they fit. -/

namespace ThingHost

/-! ### Schemas -/

/-- A data description: any object. -/
def dataSchema : Schema := .record [] .unknown

/-- The name of an interaction. -/
def nameLimits : List TextLimit := [.least 1, .most 255]

def nameSchema : Schema := .text nameLimits

def labelSchema : Schema := .optional (.text [.least 1])

def propertySchema : Schema := .shape
  [ ("label", labelSchema),
    ("value", .optional .unknown),
    ("description", .withDefault dataSchema (.object [])),
    ("writable", .withDefault .flag (.bool true)),
    ("observable", .withDefault .flag (.bool true)) ]

def actionSchema : Schema := .shape
  [ ("label", labelSchema),
    ("inputDataDescription", .optional dataSchema),
    ("outputDataDescription", .optional dataSchema) ]

def eventSchema : Schema := .shape
  [ ("label", labelSchema),
    ("dataDescription", .optional dataSchema) ]

def interactionSchema : InteractionKind → Schema
  | .property => propertySchema
  | .action => actionSchema
  | .event => eventSchema

/-- The member of a Thing's definition that holds its interactions of a kind. -/
def sectionKey : InteractionKind → String
  | .property => "properties"
  | .action => "actions"
  | .event => "events"

/-- Every name that a section uses and a name before it uses already. -/
def takenNames (seen : List String) : List (InteractionKind × String) → List Issue
  | [] => []
  | (kind, name) :: rest =>
    (if seen.contains name then [⟨[.key (sectionKey kind), .key name], .nameTaken name⟩] else []) ++
      takenNames (name :: seen) rest

/-- The names that a Thing's definition declares, with their kinds. -/
def declaredNames (definition : Value) : List (InteractionKind × String) :=
  InteractionKind.all.flatMap fun kind =>
    (Members.keys (definition.member (sectionKey kind)).fields).map fun name => (kind, name)

/-- Names are unique across kinds. -/
def uniqueNames (definition : Value) : List Issue := takenNames [] (declaredNames definition)

def thingSchema : Schema := .lawful (.shape
  [ ("id", .optional (.text [.least 1])),
    ("name", .text nameLimits),
    ("description", .optional (.text [])),
    ("properties", .withDefault (.record nameLimits propertySchema) (.object [])),
    ("actions", .withDefault (.record nameLimits actionSchema) (.object [])),
    ("events", .withDefault (.record nameLimits eventSchema) (.object [])) ]) uniqueNames

/-! ### Reading definitions -/

/-- The affordance that a definition in schema form describes. -/
def affordanceOf (definition : Value) : InteractionKind → Affordance
  | .property =>
    .property ((definition.data? "description").getD []) ((definition.flag? "writable").getD true)
      ((definition.flag? "observable").getD true)
  | .action =>
    .action (definition.data? "inputDataDescription") (definition.data? "outputDataDescription")
  | .event => .event (definition.data? "dataDescription")

/-- The interaction that a definition in schema form declares under a name. -/
def interactionOf (serial : Nat) (kind : InteractionKind) (name : String) (definition : Value) :
    Interaction :=
  { serial, name, label := definition.text? "label", affordance := affordanceOf definition kind }

/-- Checks a name and a definition together. The issues of the name come first, under the key of its
    own. -/
def parseDefinition (schema : Schema) (name definition : Value) : Except ThingError Value :=
  let nameIssues := ((nameSchema.check name).under (.key "name")).issues
  let report := schema.check definition
  match nameIssues ++ report.issues, report.result with
  | [], some v => .ok v
  | issues, _ => .error (.invalidInteraction name issues)

end ThingHost
