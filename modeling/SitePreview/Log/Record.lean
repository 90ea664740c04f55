import SitePreview.Calendar
import SitePreview.Json.Number
import SitePreview.Json.Printer
import SitePreview.Log.Message

/-! Log records as lines of JSON: one object a record, with its time, level, logger and message,
then what is known of its context, then the exception it reports. The context may also hold
attributes of the record itself, which then stand for its own. The moment of a record is given as
seconds from 1970 on. Seconds have 64 bits and a sign, years from 1900 on have 32 of them, and only
years of at most four digits can be written. -/

namespace SitePreview.Log

/-- Why seconds are no moment that can be written. A year is known by its last 32 bits. -/
inductive MomentError
  | notNumber
  | undefined
  | tooManySeconds
  | tooManyYears
  | year (n : Int)
deriving DecidableEq

def MomentError.message : MomentError → Text
  | notNumber => []
  | undefined => "Invalid value NaN (not a number)"
  | tooManySeconds => "timestamp out of range for platform time_t"
  | tooManyYears => "[Errno 75] Value too large for defined data type"
  | year n => Timestamp.outOfRangeMessage n

/-- The integer has a sign and fewer than the given number of bits. -/
def fits (bits : Nat) (i : Int) : Bool := -2 ^ (bits - 1) ≤ i && i < 2 ^ (bits - 1)

/-- The moment if it can be written. -/
def checkMoment (t : Timestamp) : Except MomentError Timestamp :=
  if !fits 64 t.seconds then .error .tooManySeconds
  else if !fits 32 (t.year - 1900) then .error .tooManyYears
  else if t.year < 1 ∨ 9999 < t.year then .error (.year (t.year.bmod (2 ^ 32)))
  else .ok t

/-- The moment that lies a number of seconds from 1970 on. -/
def moment (seconds : Json) : Except MomentError Timestamp :=
  match seconds with
  | .float x =>
    match Timestamp.ofFloat? x with
    | some t => checkMoment t
    | none => .error (if x.isNaN then .undefined else .tooManySeconds)
  | v =>
    match v.wholeNumber? with
    | some i => checkMoment { seconds := i }
    | none => .error .notNumber

/-- An exception that a record reports. -/
structure Failure where
  className : Text
  text : Text
deriving DecidableEq

/-- A log record. It was created a number of seconds from 1970 on. -/
structure Record where
  logger : Text
  level : Int
  message : Text
  arguments : List Json := []
  created : Json
  context : List (Text × Json) := []
  failure : Option Failure := none

inductive LineError
  | moment (e : MomentError)
  | format (e : FormatError)
  | failure
deriving DecidableEq

def levelName (level : Int) : Text :=
  if level = 0 then "NOTSET"
  else if level = 10 then "DEBUG"
  else if level = 20 then "INFO"
  else if level = 30 then "WARNING"
  else if level = 40 then "ERROR"
  else if level = 50 then "CRITICAL"
  else "Level " ++ .ofInt level

/-- The attributes of the context that are written. -/
def contextNames : List Text := ["project_id", "actor_id", "mode"]

namespace Failure

/-- The report of an exception, which ends its line. -/
def report (f : Failure) : Text :=
  if f.text = [] then f.className ++ "\n" else f.className ++ ": " ++ f.text ++ "\n"

end Failure

namespace Record

/-- What the context holds under the name of an attribute. -/
def attribute? (r : Record) (name : Text) : Option Json := r.context.lookup name

/-- The members of the context that are written, in their order. What is null counts as absent. -/
def writtenContext (r : Record) : List (Text × Json) :=
  contextNames.filterMap fun name =>
    match r.context.lookup name with
    | none => none
    | some .null => none
    | some v => some (name, v)

def moment (r : Record) : Except LineError Timestamp :=
  (Log.moment ((r.attribute? "created").getD r.created)).mapError .moment

/-- The message with its arguments put in. Without arguments nothing in it is a place. -/
def text (r : Record) : Except LineError Text :=
  let message := ((r.attribute? "msg").map Json.plain).getD r.message
  let arguments := match r.attribute? "args" with
    | some v => if v.isNothing then none else some (Arguments.ofValue v)
    | none => if r.arguments.isEmpty then none else some (Arguments.ofList r.arguments)
  match arguments with
  | none => .ok message
  | some a => (format message a).mapError .format

/-- The exception that is reported. The context may only say that there is none. -/
def reported (r : Record) : Except LineError (Option Failure) :=
  match r.attribute? "exc_info" with
  | none => .ok r.failure
  | some (.array (.null :: _)) => .ok none
  | some v => if v.isNothing then .ok none else .error .failure

/-- The members of the object that is written for a record. -/
def members (r : Record) : Except LineError (List (Text × Json)) := do
  let moment ← r.moment
  let text ← r.text
  let reported ← r.reported
  let level := (r.attribute? "levelname").getD (.string (levelName r.level))
  let logger := (r.attribute? "name").getD (.string r.logger)
  let always : List (Text × Json) :=
    [("timestamp", .string moment.iso), ("level", level), ("logger", logger),
      ("message", .string text)]
  let failure : List (Text × Json) := match reported with
    | none => []
    | some f => [("exc_info", .string f.report)]
  return always ++ r.writtenContext ++ failure

def line (r : Record) : Except LineError Text :=
  r.members.map fun members => (Json.object members).toText .line

end Record

end SitePreview.Log
