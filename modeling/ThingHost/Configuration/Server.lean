import ThingHost.Definition

/-! The settings of the host process, read from its environment. A variable that is empty counts as not
    set. -/

namespace ThingHost

def logLevels : List String := ["fatal", "error", "warn", "info", "debug", "trace", "silent"]

def environmentSchema : Schema := .shape
  [ ("HOST", .withDefault (.text [.least 1]) (.string "0.0.0.0")),
    ("PORT", .withDefault (.integer 0 65535) (.ofNat 3000)),
    ("LOG_LEVEL", .withDefault (.word logLevels) (.string "info")),
    ("REDIS_URL", .optional (.text [.url])),
    ("THING_CATALOG", .withDefault (.text [.least 1]) (.string "config/things.json")) ]

structure ServerConfig where
  host : String
  port : Number
  logLevel : String
  redisUrl : Option String
  catalogPath : String
  deriving DecidableEq, Repr

namespace ServerConfig

/-- The variables that are set. -/
def present (environment : Fields) : Fields :=
  environment.filter fun (_, v) =>
    match v with
    | .undefined => false
    | .string s => s ≠ ""
    | _ => true

/-- The settings of an environment in schema form. -/
def ofSettings (settings : Value) : ServerConfig :=
  { host := (settings.text? "HOST").getD ""
    port := match settings.member "PORT" with
      | .number x => x
      | _ => .nan
    logLevel := (settings.text? "LOG_LEVEL").getD ""
    redisUrl := settings.text? "REDIS_URL"
    catalogPath := (settings.text? "THING_CATALOG").getD "" }

/-- The port is a number, or has a text that may be one. -/
def hasPort (environment : Fields) : Bool := (Members.get? "PORT" environment).all Value.hasText

/-- Reads the settings, or refuses with every issue found. -/
def load (environment : Fields) : Except Thrown ServerConfig :=
  if !hasPort environment then .error (.fault .noText)
  else
    match environmentSchema.parse (.object (present environment)) with
    | .ok settings => .ok (ofSettings settings)
    | .error issues => refuse (.invalidConfiguration .environment issues)

end ServerConfig
end ThingHost
