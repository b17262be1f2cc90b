import ThingHost.Url.Host

/-! URLs, by the rules that browsers share: blanks at the ends and line breaks anywhere do not count, a
    scheme is needed unless the text refers to a place on a host that is known already, and only the
    host and the port can be wrong. Everything else is put into the spelling in which it is sent: steps
    to the same or the upper folder are taken, and characters that a URL does not hold are encoded. -/

namespace ThingHost

/-- A URL in the spelling in which it is sent. What stands before its path is checked and not kept. -/
structure Url where
  path : List Char
  query : List Char
  deriving DecidableEq, Repr

namespace Url

/-- The text that counts. What follows a number sign is never sent. -/
def trimmed (text : String) : List Char :=
  ((Text.trim (·.toNat ≤ 0x20) text.toList).filter fun c => c ≠ '\t' && c ≠ '\n' && c ≠ '\r').takeWhile
    (· ≠ '#')

/-! ### Schemes -/

inductive Scheme where
  /-- The host is the machine itself or a domain, and has neither credentials nor port. -/
  | file
  /-- The host is a domain. -/
  | web
  /-- Anything goes. -/
  | other
  deriving DecidableEq, Repr

namespace Scheme

def ofName (name : String) : Scheme :=
  if name = "file" then .file
  else if ["ftp", "http", "https", "ws", "wss"].contains name then .web
  else .other

/-- One of the schemes that every browser knows. -/
def special (s : Scheme) : Bool := s != .other

/-- In the schemes that every browser knows a backslash is a slash. -/
def isSlash (s : Scheme) (c : Char) : Bool := c = '/' || (s.special && c = '\\')

end Scheme

def isSchemeChar (c : Char) : Bool := c.isAlphanum || c = '+' || c = '-' || c = '.'

/-- The name of the scheme in lower case, and what follows its colon. -/
def splitScheme? (text : List Char) : Option (String × List Char) :=
  match text.takeWhile isSchemeChar, text.dropWhile isSchemeChar with
  | first :: more, ':' :: rest =>
    if first.isAlpha then some (String.ofList ((first :: more).map Char.toLower), rest) else none
  | _, _ => none

/-! ### What has to be encoded -/

/-- Characters that nothing in a URL holds. -/
def isControl (c : Char) : Bool := c.toNat < 0x20 || 0x7E < c.toNat

/-- Characters that no query holds. -/
def encodedInQuery (s : Scheme) (c : Char) : Bool :=
  isControl c || [' ', '"', '#', '<', '>'].contains c || (s.special && c = '\'')

/-- Characters that no part of a path holds. -/
def encodedInPath (c : Char) : Bool :=
  isControl c || [' ', '"', '#', '<', '>', '?', '\x60', '\x7b', '\x7d'].contains c

/-! ### Paths -/

def lowered (part : List Char) : String := String.ofList (part.map Char.toLower)

/-- The same folder. -/
def isDot (part : List Char) : Bool := [".", "%2e"].contains (lowered part)

/-- The folder above. -/
def isDoubleDot (part : List Char) : Bool := ["..", ".%2e", "%2e.", "%2e%2e"].contains (lowered part)

/-- A letter for a disk. -/
def isDrive (text : List Char) : Bool :=
  match text with
  | [letter, mark] => letter.isAlpha && (mark = ':' || mark = '|')
  | _ => false

/-- One step up. No step leads out of a disk. -/
def shorten (s : Scheme) (reversed : List (List Char)) : List (List Char) :=
  match s, reversed with
  | .file, [part] => if isDrive part then [part] else []
  | _, reversed => reversed.drop 1

/-- A part of a path as it is sent. -/
def sentPart (s : Scheme) (first : Bool) (part : List Char) : List Char :=
  if s = .file && first && isDrive part then part.take 1 ++ [':'] else Percent.encode encodedInPath part

/-- Takes the steps of a path; `reversed` is where they have led so far. A step to a folder at the end
    leads into it. -/
def walk (s : Scheme) (reversed : List (List Char)) : List (List Char) → List (List Char)
  | [] => reversed.reverse
  | part :: rest =>
    if isDoubleDot part then
      walk s (if rest.isEmpty then [] :: shorten s reversed else shorten s reversed) rest
    else if isDot part then walk s (if rest.isEmpty then [] :: reversed else reversed) rest
    else walk s (sentPart s reversed.isEmpty part :: reversed) rest

/-- The path before a query, and the query as it is sent. -/
def splitQuery (s : Scheme) (text : List Char) : List Char × List Char :=
  (text.takeWhile (· ≠ '?'), Percent.encode (encodedInQuery s) ((text.dropWhile (· ≠ '?')).drop 1))

/-- The URL of a path without its first slash, and a query. -/
def ofPath (s : Scheme) (text : List Char) : Url :=
  let (path, query) := splitQuery s text
  let parts := Text.splitOn '/' (path.map fun c => if s.isSlash c then '/' else c)
  ⟨(walk s [] parts).flatMap ('/' :: ·), query⟩

/-- The URL of what follows the scheme where that has no slash: its path is a text without parts. -/
def ofText (s : Scheme) (text : List Char) : Url :=
  let (path, query) := splitQuery s text
  ⟨Percent.encode isControl path, query⟩

/-- The URL of what follows a host. Only a scheme that not every browser knows has URLs without a
    path. -/
def ofRest (s : Scheme) (text : List Char) : Url :=
  match text with
  | [] => if s.special then ofPath s [] else ofText s []
  | c :: rest =>
    if s.isSlash c then ofPath s rest else if s.special then ofPath s text else ofText s text

/-! ### Hosts and ports -/

/-- Ends the host and port. -/
def endsAuthority (s : Scheme) (c : Char) : Bool := s.isSlash c || c = '?'

/-- The part after the last at sign, and whether there is one. -/
def afterCredentials (text : List Char) : List Char × Bool :=
  ((text.reverse.takeWhile (· ≠ '@')).reverse, text.contains '@')

/-- Splits at the first colon that is not between brackets. -/
def splitPort (inBrackets : Bool) (reversed : List Char) : List Char → List Char × Option (List Char)
  | [] => (reversed.reverse, none)
  | c :: rest =>
    if c = ':' && !inBrackets then (reversed.reverse, some rest)
    else
      splitPort (if c = '[' then true else if c = ']' then false else inBrackets) (c :: reversed) rest

/-- A port is a decimal up to 65535, or nothing. -/
def isPort (text : List Char) : Bool :=
  text.all Char.isDigit && (Digits.read? 10 text).any (· ≤ 65535)

/-- Whether the text up to the path is credentials, host and port. -/
def isAuthority (s : Scheme) (text : List Char) : Bool :=
  let (hostAndPort, credentials) := afterCredentials text
  if credentials && hostAndPort.isEmpty then false
  else
    match splitPort false [] hostAndPort with
    | (host, some port) => !host.isEmpty && isHost s.special host && isPort port
    | (host, none) => !(s.special && host.isEmpty) && isHost s.special host

/-- The URL of what starts with credentials, host and port. -/
def ofAuthority? (s : Scheme) (text : List Char) : Option Url :=
  if isAuthority s (text.takeWhile fun c => !endsAuthority s c) then
    some (ofRest s (text.dropWhile fun c => !endsAuthority s c))
  else none

/-- The URL of what starts with the host of a file, or with a disk in its place. -/
def ofFileHost? (text : List Char) : Option Url :=
  let host := text.takeWhile fun c => !endsAuthority .file c
  if isDrive host then some (ofPath .file text)
  else if host.isEmpty || isHost true host then
    some (ofRest .file (text.dropWhile fun c => !endsAuthority .file c))
  else none

/-- Two slashes at the start of a text, and what follows them. -/
def afterSlashes? (s : Scheme) : List Char → Option (List Char)
  | a :: b :: rest => if s.isSlash a && s.isSlash b then some rest else none
  | _ => none

/-- A text without a slash at its start. -/
def dropSlash (s : Scheme) : List Char → List Char
  | [] => []
  | c :: rest => if s.isSlash c then rest else c :: rest

/-! ### Whole URLs -/

/-- The URL of what follows the colon of a scheme. -/
def ofScheme? (s : Scheme) (text : List Char) : Option Url :=
  match s, afterSlashes? s text with
  | .file, some rest => ofFileHost? rest
  | .file, none => some (ofPath .file (dropSlash .file text))
  | .web, _ => ofAuthority? .web (text.dropWhile (Scheme.isSlash .web))
  | .other, some rest => ofAuthority? .other rest
  | .other, none =>
    match text with
    | '/' :: rest => some (ofPath .other rest)
    | text => some (ofText .other text)

/-- The URL that a text is on its own. -/
def absolute? (text : String) : Option Url := do
  let (name, rest) ← splitScheme? (trimmed text)
  ofScheme? (.ofName name) rest

/-- The URL of a text without a scheme that is seen from the root of a web host: another host after two
    slashes, else a path of this one. -/
def ofReference? (text : List Char) : Option Url :=
  match afterSlashes? .web text with
  | some rest => ofAuthority? .web (rest.dropWhile (Scheme.isSlash .web))
  | none => some (ofPath .web (dropSlash .web text))

/-- The URL that a text is when it is seen from the root of an `http` host. That scheme can be left
    out, also where its name is given. -/
def relative? (text : String) : Option Url :=
  match splitScheme? (trimmed text) with
  | none => ofReference? (trimmed text)
  | some (name, rest) => if name = "http" then ofReference? rest else ofScheme? (.ofName name) rest

/-- Whether a text is a URL on its own. -/
def isUrl (text : String) : Bool := (absolute? text).isSome

/-- The path, and the query if there is one. -/
def target (u : Url) : String :=
  String.ofList (if u.query.isEmpty then u.path else u.path ++ '?' :: u.query)

end Url
end ThingHost
