import ThingHost.Definition
import ThingHost.Json.Reader
import ThingHost.Text.Utf8

/-! The catalog: a JSON file that defines the Things a host starts with. No file means no Things; a file
    that is there must be readable and valid. -/

namespace ThingHost
namespace Catalog

def schema : Schema := .shape [("things", .withDefault (.list thingSchema) (.array []))]

/-- What is found at the catalog's path. -/
inductive Source where
  | missing
  | directory
  | file (bytes : List Nat)

/-- The definitions of a catalog in schema form. -/
def definitions (catalog : Value) : List Value := catalog.items "things"

/-- The definitions that a catalog's value holds. -/
def ofValue (path : String) (v : Value) : Except ThingError (List Value) :=
  match schema.parse v with
  | .ok catalog => .ok (definitions catalog)
  | .error issues => .error (.invalidConfiguration (.catalog path) issues)

/-- The definitions that a catalog's text holds. -/
def ofText (path text : String) : Except ThingError (List Value) :=
  match Json.read? text with
  | some v => ofValue path v
  | none => .error (.invalidConfiguration (.catalogText "unexpected text") [])

/-- The definitions of the catalog at a path, in order and in schema form. -/
def load (path : String) : Source → Except Thrown (List Value)
  | .missing => .ok []
  | .directory => .error (.fault .pathIsDirectory)
  | .file bytes => (ofText path (String.ofList (Utf8.decodeLossy bytes))).mapError .ofRefusal

end Catalog
end ThingHost
