import SitePreview.Analysis.Mode
import SitePreview.Command.Options
import SitePreview.Validation.Field

/-! Requests: what a command line asks for. Options for all commands stand in front of the command,
its own ones behind it. -/

namespace SitePreview.Command

open Text

inductive Verb
  | render
  | hash
  | diff
  | summary
  | extract
  | sync
  | history
deriving DecidableEq

namespace Verb

def choices : List (Text × Verb) :=
  [("render", render), ("hash", hash), ("diff", diff), ("summary", summary), ("extract", extract),
    ("sync", sync), ("history", history)]

end Verb

def helpRule : Rule := { key := "help", long := "--help", fixed := some "yes" }

def commonRules : List Rule := [
  helpRule,
  { key := "json", long := "--json", fixed := some "yes" },
  { key := "json", long := "--no-json", fixed := some "no" },
  { key := "verbose", long := "--verbose", short := some 'v', fixed := some "yes" }]

def Verb.rules : Verb → List Rule
  | render => [helpRule, .taking "out" (some 'o'), .taking "mode" none, .taking "title" none]
  | hash | diff | summary => [helpRule]
  | extract => [helpRule, .taking "out" (some 'o')]
  | sync => [helpRule, .taking "project" (some 'p'), .taking "actor" none,
      .taking "message" (some 'm')]
  | history => [helpRule, .taking "project" (some 'p'), .taking "limit" (some 'n')]

/-- A command with all it needs to know. Paths are as they were given. -/
inductive Request
  | help
  | render (directory : Text) (out : Option Text) (mode : Option RenderMode) (title : Text)
  | hash (directory : Text)
  | diff (old new : Text)
  | summary (directory : Text)
  | extract (response : Text) (out : Option Text)
  | sync (directory project actor : Text) (message : Option Text)
  | history (project : Text) (limit : Int)
deriving DecidableEq

/-- What stands in front of a command's own arguments. -/
inductive Opening
  | help
  | command (inJson : Bool) (verb : Verb) (arguments : List Text)

/-- The opening of a command line, if it names a command and its options are known. -/
def Opening.read? (arguments : List Text) : Option Opening := do
  let a ← Arguments.read? commonRules false arguments
  if a.value? "help" = some ("yes" : Text) then return .help
  match a.others with
  | [] => none
  | name :: rest =>
    let verb ← Verb.choices.lookup name
    return .command (a.value? "json" = some ("yes" : Text)) verb rest

/-- How many versions may be asked for. -/
def isLimit (n : Int) : Bool := 1 ≤ n && n ≤ 50

/-- The number of versions asked for. -/
def limit? (t : Text) : Option Int :=
  match Checked.integerOfText t with
  | .ok n => if isLimit n then some n else none
  | .bad _ => none

namespace Request

/-- The request that a command makes with its arguments, if they are as they should be. -/
def read? (verb : Verb) (arguments : List Text) : Option Request := do
  let a ← Arguments.read? verb.rules true arguments
  if a.value? "help" = some ("yes" : Text) then return .help
  match verb, a.others with
  | .render, [directory] =>
    let mode ← match a.value? "mode" with
      | none => some none
      | some name => (RenderMode.ofName? name).map some
    return .render directory (a.value? "out") mode ((a.value? "title").getD "Preview")
  | .hash, [directory] => return .hash directory
  | .diff, [old, new] => return .diff old new
  | .summary, [directory] => return .summary directory
  | .extract, [response] => return .extract response (a.value? "out")
  | .sync, [directory] =>
    return .sync directory (← a.value? "project") ((a.value? "actor").getD "cli")
      (a.value? "message")
  | .history, [] =>
    let limit ← match a.value? "limit" with
      | none => some 20
      | some t => limit? t
    return .history (← a.value? "project") limit
  | _, _ => none

end Request

end SitePreview.Command
