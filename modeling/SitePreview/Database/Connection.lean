import SitePreview.Database.Address
import SitePreview.Text.SmallLetters

/-! What the options of an address say about connections. Options of database files are numbers and
truth values; a server may be named by options instead, together with others that take its place. -/

namespace SitePreview.Database

/-- Why the options of an address cannot be used. -/
inductive OptionFault
  | number (fault : NumberFault)
  | notTruth (t : Text)
  | repeated
  | mixedHosts
  | ports (shown : Text)
  | counts
  | noHost
  | noPort
  | manyParts
  | unknown (name : Text)
deriving DecidableEq

namespace OptionFault

def message : OptionFault → Text
  | number fault => fault.message
  | notTruth t => "String is not true/false: " ++ t.quoted
  | repeated => "an option is given more than once"
  | mixedHosts =>
    "Can't mix 'multihost' formats together; use \"host=h1,h2,h3&port=p1,p2,p3\" or " ++
      "\"host=h1:p1&host=h2:p2&host=h3:p3\" separately"
  | ports shown => "Received non-integer port arguments: " ++ shown
  | counts => "number of hosts and ports don't match"
  | noHost => "All hosts are required to be present if passing multiple hosts"
  | noPort => "All ports are required to be present if passing multiple hosts"
  | manyParts => "too many values to unpack (expected 2)"
  | unknown name => "connect() got an unexpected keyword argument '" ++ name ++ "'"

end OptionFault

def trueWords : List Text := ["true", "yes", "on", "y", "t", "1"]

def truthWords : List Text :=
  let falseWords : List Text := ["false", "no", "off", "n", "f", "0"]
  trueWords ++ falseWords

/-- An option that may be given once, and what it has to be. -/
def checkOnce (a : Address) (name : Text) (check : Text → Except NumberFault Unit) :
    Except OptionFault Unit :=
  match a.values name with
  | [] => .ok ()
  | [v] => (check v).mapError .number
  | _ => .error .repeated

/-- An option that is a truth value. One that is given more than once counts as true. -/
def checkTruth (a : Address) (name : Text) : Except OptionFault Unit :=
  match a.values name with
  | [v] =>
    let word := Text.lower v.strip
    if truthWords.contains word then .ok () else .error (.notTruth word)
  | _ => .ok ()

def checkInteger (t : Text) : Except NumberFault Unit := (Text.integer t).map fun _ => ()

def Address.checkFileOptions (a : Address) : Except OptionFault Unit := do
  checkTruth a "uri"
  checkOnce a "timeout" Text.checkNumber
  checkOnce a "detect_types" checkInteger
  checkTruth a "check_same_thread"
  checkOnce a "cached_statements" checkInteger

/-- The options that are about the connection to a database file, not about the file. -/
def connectionNames : List Text :=
  ["uri", "timeout", "isolation_level", "detect_types", "check_same_thread", "cached_statements"]

/-- Where a database is kept: in memory, or in a file, which may have to be there already. -/
inductive Storage
  | memory
  | file (path : Text) (mustExist : Bool)
  | unknownMode

/-- The storage that a resource name behind `file:` stands for, with options of its own. -/
def Storage.ofResource (options : List (Text × Text)) (s : Text) : Storage :=
  let isPathPart (c : CodePoint) : Bool := c ≠ '?' && c ≠ '#'
  let isHostPart (c : CodePoint) : Bool := c ≠ '/'
  let named : Text := s.takeWhile isPathPart
  let path := Text.percentDecoded <| match Text.after? "//" named with
    | some rest => rest.dropWhile isHostPart
    | none => named
  let mode : Text := (options.lookup ("mode" : Text)).getD "rwc"
  if mode = "memory" || path = [] || path = ":memory:" then .memory
  else if mode = "rwc" then .file path false
  else if mode = "rw" || mode = "ro" then .file path true
  else .unknownMode

/-- The storage of the database file at an address. If the file is named by a resource name, the
options that are left belong to that. -/
def Address.storage (a : Address) : Storage :=
  let name := a.database.getD []
  let isResource := match a.values "uri" with
    | [v] => trueWords.contains (Text.lower v.strip)
    | vs => vs ≠ []
  let options := a.options.filter fun o => !connectionNames.contains o.1
  let plain (name : Text) : Storage :=
    if name = [] || name = ":memory:" then .memory else .file name false
  if !isResource then plain name
  else
    match Text.after? "file:" name with
    | some rest => .ofResource options rest
    | none =>
      let sorted := options.mergeSort fun x y => decide (x.1 ≤ y.1)
      if sorted.isEmpty then plain name
      else plain (name ++ "?" ++ Text.join "&" (sorted.map fun (k, v) => k ++ "=" ++ v))

abbrev Hosts := List Text × List (Option Text)

/-- The parts of what may be a host with a port behind a colon. A host has ASCII letters, digits,
hyphens and points only. -/
def hostAndPort? (t : Text) : Option (Text × Option Text) :=
  let isHostPart (c : CodePoint) : Bool :=
    c.isAsciiLetter || c.isAsciiDigit || c = '-' || c = '.'
  match Text.after? ":" (t.dropWhile isHostPart) with
  | none => none
  | some port =>
    if port.all fun c => c.decimalDigit?.isSome then
      some (t.takeWhile isHostPart, if port = [] then none else some port)
    else none

/-- Hosts with their ports, which are parted by colons. Only as many parts count as all have. -/
def splitHosts (ts : List Text) : Except OptionFault Hosts :=
  let parts := ts.map fun t =>
    if t.contains ':' then (t.splitOn ':').map some else [some t, none]
  if parts.all fun ps => 2 < ps.length then .error .manyParts
  else .ok (parts.map fun ps => (ps.head?.bind id).getD [], parts.map fun ps => ps[1]?.bind id)

/-- The hosts and the texts of the ports that options name, if they name any, and whether ports
belong to the hosts. -/
def namedHosts (a : Address) : Except OptionFault (Option Hosts × Bool) :=
  match a.values "host" with
  | [] => .ok (none, false)
  | [t] =>
    let hosts := t.splitOn ','
    let single := if a.values "port" = [] && hosts.length = 1 then hostAndPort? t else none
    match single with
    | some (host, port) => .ok (some ([host], [port]), true)
    | none => .ok (some (hosts, []), false)
  | ts => (splitHosts ts).map fun hosts => (some hosts, true)

/-- The text of a port, or nothing, in a list of ports. -/
def portLiteral (port : Option Text) : Text := (port.map Text.quoted).getD "None"

/-- The texts of ports in parentheses. -/
def portsLiteral (ports : List (Option Text)) : Text :=
  "(" ++ Text.join ", " (ports.map portLiteral) ++ (if ports.length = 1 then ",)" else ")" : Text)

/-- The port that a text stands for; an empty one stands for none. -/
def portNumber (port : Option Text) : Except NumberFault (Option Int) :=
  match port with
  | none | some [] => .ok none
  | some t => (Text.integer t).map some

def Address.checkServerOptions (a : Address) : Except OptionFault Unit := do
  let (named, integrated) ← namedHosts a
  let portTexts ← match a.values "port" with
    | [] => pure ((named.map Prod.snd).getD [])
    | given =>
      if integrated then throw .mixedHosts
      pure (match given with
        | [t] => (t.splitOn ',').map some
        | ts => ts.map some)
  let ports ← (portTexts.mapM portNumber).mapError fun _ => .ports (portsLiteral portTexts)
  let hosts := (named.map Prod.fst).getD []
  if ports ≠ [] && hosts.length ≠ ports.length && (1 < hosts.length || 1 < ports.length) then
    throw .counts
  if 1 < hosts.length then
    if hosts.contains [] then throw .noHost
    if ports.length < hosts.length || ports.any fun p => p.getD 0 = 0 then throw .noPort
  checkOnce a "prepared_statement_cache_size" checkInteger

def serverOptionNames : List Text :=
  ["dsn", "host", "port", "user", "password", "passfile", "database", "loop", "timeout",
    "statement_cache_size", "max_cached_statement_lifetime", "max_cacheable_statement_size",
    "command_timeout", "ssl", "direct_tls", "connection_class", "record_class",
    "server_settings", "target_session_attrs", "krbsrvname", "gsslib", "async_creator_fn",
    "prepared_statement_cache_size", "prepared_statement_name_func"]

def Address.checkServerOptionNames (a : Address) : Except OptionFault Unit :=
  match a.options.find? fun o => !serverOptionNames.contains o.1 with
  | some (name, _) => .error (.unknown name)
  | none => .ok ()

end SitePreview.Database
