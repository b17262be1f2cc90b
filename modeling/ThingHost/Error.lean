import ThingHost.Interaction
import ThingHost.Schema.Issue

/-! What can go wrong. A `ThingError` is a refusal of the host itself; whatever else is thrown comes
    from the code of an application and passes through unchanged. -/

namespace ThingHost

/-- What part of the configuration cannot be used. -/
inductive ConfigurationFault where
  | environment
  | catalogText (reason : String)
  | catalog (path : String)
  deriving DecidableEq, Repr

/-- What was asked for is repeated as it was given, and need not be text. -/
inductive ThingError where
  | notFound (kind : InteractionKind) (name : Value)
  | notWritable (property : String)
  | unknownEvent (event : Value)
  | unknownProperty (property : Value)
  | notObservable (property : String)
  | undefinedActionHandler
  | duplicateInteraction (name : String)
  | invalidInteraction (name : Value) (issues : List Issue)
  | invalidThing (issues : List Issue)
  | thingNotFound (id : Value)
  | duplicateThing (id : String)
  | invalidConfiguration (fault : ConfigurationFault) (issues : List Issue)
  deriving Repr

def ConfigurationFault.message : ConfigurationFault → String
  | .environment => "Invalid server configuration"
  | .catalogText reason => "Thing catalog is not valid JSON: " ++ reason
  | .catalog path => "Invalid thing catalog: " ++ path

namespace ThingError

def message : ThingError → String
  | .notFound kind name => kind.label ++ " not found: " ++ name.plainText
  | .notWritable property => "Property is non-writable: " ++ property
  | .unknownEvent event => "Unknown event: " ++ event.plainText
  | .unknownProperty property => "Unknown property: " ++ property.plainText
  | .notObservable property => "Property is not observable: " ++ property
  | .undefinedActionHandler => "Undefined action handler"
  | .duplicateInteraction name => "Interaction already exists: " ++ name
  | .invalidInteraction name _ => "Invalid definition for interaction: " ++ name.plainText
  | .invalidThing _ => "Invalid Thing definition"
  | .thingNotFound id => "Thing not found: " ++ id.plainText
  | .duplicateThing id => "Thing already registered: " ++ id
  | .invalidConfiguration fault _ => fault.message

/-- The word that tells one kind of refusal from another. -/
def code : ThingError → String
  | .notFound .. => "NOT_FOUND"
  | .notWritable _ => "NOT_WRITABLE"
  | .unknownEvent _ => "UNKNOWN_EVENT"
  | .unknownProperty _ => "UNKNOWN_PROPERTY"
  | .notObservable _ => "NOT_OBSERVABLE"
  | .undefinedActionHandler => "UNDEFINED_ACTION_HANDLER"
  | .duplicateInteraction _ => "DUPLICATE_INTERACTION"
  | .invalidInteraction .. => "INVALID_INTERACTION"
  | .invalidThing _ => "INVALID_THING"
  | .thingNotFound _ => "THING_NOT_FOUND"
  | .duplicateThing _ => "DUPLICATE_THING"
  | .invalidConfiguration .. => "INVALID_CONFIGURATION"

/-- What the message repeats has a text. -/
def hasMessage : ThingError → Bool
  | .notFound _ name => name.hasText
  | .unknownEvent event => event.hasText
  | .unknownProperty property => property.hasText
  | .invalidInteraction name _ => name.hasText
  | .thingNotFound id => id.hasText
  | _ => true

end ThingError

/-- A fault of the program around the host that is none of its own refusals. -/
inductive Fault where
  /-- An action is added with null in place of its definition. -/
  | missingDefinition
  /-- What stands where a handler should is no code. -/
  | notCallable
  /-- A big integer has no JSON text. -/
  | unwritableNumber
  /-- A value that should be text, or be written as text, is no text and has none. -/
  | noText
  /-- A request is for what is no URL. -/
  | badUrl
  /-- A request has a method that nobody knows. -/
  | badMethod
  /-- The clock shows a time that no date has. -/
  | invalidTime
  /-- The catalog's path is a directory. -/
  | pathIsDirectory
  deriving DecidableEq, Repr

def Fault.message : Fault → String
  | .missingDefinition => "Cannot destructure an action definition that is null"
  | .notCallable => "handler is not a function"
  | .unwritableNumber => "Do not know how to serialize a BigInt"
  | .noText => "Cannot convert object to primitive value"
  | .badUrl => "Invalid URL"
  | .badMethod => "must be equal to one of the allowed values"
  | .invalidTime => "Invalid time value"
  | .pathIsDirectory => "EISDIR: illegal operation on a directory, read"

/-- What is thrown: a refusal of the host, a fault, an error that an application made under a name of
    its choice, or any value at all. -/
inductive Thrown where
  | refusal (error : ThingError)
  | fault (fault : Fault)
  | failure (name message : String)
  | value (v : Value)
  deriving Repr

/-- How something ends: with a value or with something thrown. -/
abbrev Outcome := Except Thrown Value

/-- A refusal is thrown, or the fault that its message cannot be put into words. -/
def Thrown.ofRefusal (e : ThingError) : Thrown := if e.hasMessage then .refusal e else .fault .noText

def refuse {α : Type} (e : ThingError) : Except Thrown α := .error (.ofRefusal e)

end ThingHost
