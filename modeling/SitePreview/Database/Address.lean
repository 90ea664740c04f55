import SitePreview.Text.Number
import SitePreview.Text.Percent
import SitePreview.Text.Word

/-! Addresses of databases: a scheme, perhaps a user with a password, a host with a port, the name
of the database and further options. A password is never written. -/

namespace SitePreview.Database

structure Address where
  scheme : Text
  user : Option Text := none
  hasPassword : Bool := false
  host : Option Text := none
  port : Option Int := none
  database : Option Text := none
  options : List (Text × Text) := []
deriving DecidableEq

/-- Why a text is no address: it has another form, or its port is no integer. -/
inductive AddressFault
  | form
  | port (fault : NumberFault)
deriving DecidableEq

namespace Address

def values (a : Address) (name : Text) : List Text :=
  (a.options.filter fun o => o.1 = name).map Prod.snd

/-- User, whether there is a password, and what follows the sign behind both. -/
def credentials (s : Text) : Option Text × Bool × Text :=
  let isUserPart (c : CodePoint) : Bool := c ≠ ':' && c ≠ '/'
  let isPasswordPart (c : CodePoint) : Bool := c ≠ '@'
  let run := s.takeWhile isUserPart
  let withPassword : Option Text := do
    let rest ← Text.after? ":" (s.drop run.length)
    Text.after? "@" (rest.dropWhile isPasswordPart)
  match withPassword with
  | some rest => (some run, true, rest)
  | none =>
    if run.contains '@' then
      let behind := Text.takeRightWhile isPasswordPart run
      let user := run.take (run.length - behind.length - 1)
      (some user, false, s.drop (user.length + 1))
    else (none, false, s)

/-- The host, between brackets or not, and what follows it. -/
def hostOf (s : Text) : Option Text × Text :=
  let isBracketPart (c : CodePoint) : Bool := c ≠ '/' && c ≠ '?'
  let isHostPart (c : CodePoint) : Bool := isBracketPart c && c ≠ ':'
  let bracketed : Option (Text × Text) := do
    let rest ← Text.after? "[" s
    let run := rest.takeWhile isBracketPart
    let inside := (Text.dropRightWhile (fun c => c ≠ ']') run).dropLast
    if inside = [] then none else some (inside, rest.drop (inside.length + 1))
  match bracketed with
  | some (h, rest) => (some h, rest)
  | none =>
    match s.takeWhile isHostPart with
    | [] => (none, s)
    | h => (some h, s.drop h.length)

/-- The options behind the question mark; those without a value are dropped. -/
def optionsOf (s : Text) : List (Text × Text) :=
  let plain (t : Text) : Text := Text.percentDecoded (Text.replace '+' " " t)
  let isNamePart (c : CodePoint) : Bool := c ≠ '='
  (s.splitOn '&').filterMap fun part =>
    match part.dropWhile isNamePart with
    | _ :: c :: value => some (plain (part.takeWhile isNamePart), plain (c :: value))
    | _ => none

/-- The port behind the colon, if there is one, and what follows it. -/
def portOf (s : Text) : Except AddressFault (Option Int × Text) :=
  let isPortPart (c : CodePoint) : Bool := c ≠ '/' && c ≠ '?'
  match Text.after? ":" s with
  | none => .ok (none, s)
  | some rest =>
    match Text.integer (rest.takeWhile isPortPart) with
    | .ok port => .ok (some port, rest.dropWhile isPortPart)
    | .error fault => .error (.port fault)

def parse (s : Text) : Except AddressFault Address := do
  let isSchemePart (c : CodePoint) : Bool := c.isWord || c = '+'
  let scheme := s.takeWhile isSchemePart
  let some rest := Text.after? "://" (s.drop scheme.length) | throw .form
  if scheme = [] then throw .form
  let (user, hasPassword, rest) := credentials rest
  let (host, rest) := hostOf rest
  let (port, rest) ← portOf rest
  let isNamePart (c : CodePoint) : Bool := c ≠ '?'
  let (database, rest) : Option Text × Text := match Text.after? "/" rest with
    | none => (none, rest)
    | some r => (some (r.takeWhile isNamePart), r.dropWhile isNamePart)
  let isOptionPart (c : CodePoint) : Bool := c ≠ '\n'
  let options := match Text.after? "?" rest with
    | none => []
    | some r => optionsOf (r.takeWhile isOptionPart)
  return {
    scheme, hasPassword, host, port, options
    user := user.map Text.percentDecoded
    database := database.map Text.percentDecoded }

/-- The text of an address, with stars in place of its password. Options come in the order of their
names. -/
def text (a : Address) : Text :=
  let user : Text := match a.user with
    | none => []
    | some u =>
      let password : Text := if a.hasPassword then ":***" else []
      Text.percentEncoded " +" u ++ password ++ "@"
  let host : Text := match a.host with
    | none => []
    | some h => if h.contains ':' then "[" ++ h ++ "]" else h
  let port : Text := match a.port with
    | none => []
    | some n => ":" ++ .ofInt n
  let database : Text := match a.database with
    | none => []
    | some d => "/" ++ Text.percentEncoded " +/" d
  let encoded (t : Text) : Text := Text.replace ' ' "+" (Text.percentEncoded " " t)
  let sorted := a.options.mergeSort fun x y => decide (x.1 ≤ y.1)
  let options : Text :=
    if sorted.isEmpty then []
    else "?" ++ Text.join "&" (sorted.map fun (k, v) => encoded k ++ "=" ++ encoded v)
  a.scheme ++ "://" ++ user ++ host ++ port ++ database ++ options

end Address

end SitePreview.Database
