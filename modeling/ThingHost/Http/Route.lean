import ThingHost.Error
import ThingHost.Text.Units
import ThingHost.Url.Basic

/-! Requests and replies, and which of the host's five resources a request is for. -/

namespace ThingHost
namespace Http

/-- What a request carries: nothing, or a text of a type. -/
inductive Body where
  | none
  | text (contentType text : String)
  deriving DecidableEq, Repr

structure Request where
  method : String
  target : String
  body : Body
  deriving DecidableEq, Repr

/-- The methods there are. -/
def knownMethods : List String :=
  ["ACL", "BIND", "CHECKOUT", "CONNECT", "COPY", "DELETE", "GET", "HEAD", "LINK", "LOCK", "M-SEARCH",
    "MERGE", "MKACTIVITY", "MKCALENDAR", "MKCOL", "MOVE", "NOTIFY", "OPTIONS", "PATCH", "POST",
    "PROPFIND", "PROPPATCH", "PURGE", "PUT", "QUERY", "REBIND", "REPORT", "SEARCH", "SOURCE",
    "SUBSCRIBE", "TRACE", "UNBIND", "UNLINK", "UNLOCK", "UNSUBSCRIBE"]

/-- A method in capitals, which may be given in small letters instead. -/
def methodOf? (name : String) : Option String :=
  knownMethods.find? fun m => m = name || m.toLower = name

/-- What a URL is read as: nothing at all is the name of what is missing, and what starts with two
    slashes is a path of this host all the same. -/
def urlOf? (text : String) : Option Url :=
  if text.isEmpty then Url.relative? Value.undefined.plainText
  else if text.startsWith "//" then Url.absolute? ("http://localhost" ++ text)
  else Url.relative? text

/-- The request that is sent for a URL. -/
def Request.ofUrl (method url : String) (body : Body) : Except Fault Request :=
  match methodOf? method, urlOf? url with
  | none, _ => .error .badMethod
  | some _, none => .error .badUrl
  | some m, some u => .ok ⟨m, u.target, body⟩

structure Response where
  status : Nat
  contentType : Option String
  body : String
  deriving DecidableEq, Repr

/-- What a request is for. -/
inductive Route where
  | list
  | describe (thing : String)
  | read (thing property : String)
  | write (thing property : String)
  | invoke (thing action : String)
  deriving DecidableEq, Repr

/-- Where a request leads. -/
inductive Routing where
  | found (r : Route)
  | unknown
  /-- The path of this target is not properly encoded. -/
  | badUrl (target : String)
  /-- A parameter of this path is longer than the host takes. -/
  | tooLong (path : String)
  deriving DecidableEq, Repr

/-! ### Paths -/

/-- A target that is an address of its own counts from the path of that address on. -/
def routed (target : List Char) : List Char :=
  if target.head? = some '/' then target
  else
    let afterMark := if "http://".toList.isPrefixOf target then target.drop 7
      else if "https://".toList.isPrefixOf target then target.drop 8
      else []
    let path := afterMark.dropWhile (· ≠ '/')
    if path.isEmpty then target else path

/-- Characters that mean something in a URL, which are decoded only inside of a parameter. -/
def isReservedChar (c : Char) : Bool :=
  [';', '/', '?', ':', '@', '&', '=', '+', '$', ',', '#', '%'].contains c

/-- The path of a target: what stands before its query, decoded but for the characters that mean
    something. The first character is no part of a query, whatever it is. -/
def path? (target : List Char) : Option (List Char) :=
  match target with
  | [] => some []
  | c :: rest =>
    (Percent.decode? (Percent.protect isReservedChar (rest.takeWhile fun c => c ≠ '?' && c ≠ '#'))).map
      (c :: ·)

/-- The parts of a path after its first character, which is taken for a slash. -/
def segments (path : List Char) : List String :=
  (Text.splitOn '/' (path.drop 1)).map fun part => String.ofList (Percent.decodeLossy part)

/-- A parameter may have this many UTF-16 code units. -/
def maxParameter : Nat := 100

/-- Takes a parameter of a path, unless it is too long. -/
def parameter (path s : String) (next : Routing) : Routing :=
  if maxParameter < Text.length s then .tooLong path else next

/-- The methods that some resource answers to. A resource that can be got can also be asked for its
    head alone. -/
def methods : List String := ["GET", "HEAD", "PUT", "POST"]

def isGet (method : String) : Bool := method = "GET" || method = "HEAD"

/-- What is done to an interaction by a method, if anything. -/
def interactionRoute? (method thing word name : String) : Option Route :=
  if word = "properties" && isGet method then some (.read thing name)
  else if word = "properties" && method = "PUT" then some (.write thing name)
  else if word = "actions" && method = "POST" then some (.invoke thing name)
  else none

/-- Where the part of a path after the Thing leads. -/
def routeThing (method path thing : String) : List String → Routing
  | [] => if isGet method then .found (.describe thing) else .unknown
  | word :: name :: rest =>
    match interactionRoute? method thing word name with
    | some r => parameter path name (if rest.isEmpty then .found r else .unknown)
    | none => .unknown
  | _ => .unknown

/-- Where a path leads. -/
def routePath (method : String) (path : List Char) : Routing :=
  match segments path with
  | ["api", "v1", "things"] => if isGet method then .found .list else .unknown
  | "api" :: "v1" :: "things" :: thing :: rest =>
    parameter (String.ofList path) thing (routeThing method (String.ofList path) thing rest)
  | _ => .unknown

/-- Where a request leads, by its method and its target. -/
def route (method target : String) : Routing :=
  if !methods.contains method then .unknown
  else
    let target := routed target.toList
    match path? target with
    | none => .badUrl (String.ofList target)
    | some path => routePath method path

end Http
end ThingHost
