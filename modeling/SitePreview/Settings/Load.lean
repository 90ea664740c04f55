import SitePreview.Json.Parser
import SitePreview.Settings.Basic
import SitePreview.Settings.EnvFile
import SitePreview.Text.SmallLetters
import SitePreview.Validation.Field

/-! Loading settings. A value comes from the overrides, else from the environment, else from the
environment file, else it is the default. Names in the environment and its file start with
`PREVIEW_`, in letters of any case. -/

namespace SitePreview.Settings

open Text

/-- The names of the settings in the order in which they are checked. -/
def fieldNames : List Text :=
  ["env", "debug", "database_url", "database_pool_size", "database_max_overflow",
    "history_default_limit", "history_max_limit", "cache_enabled", "cache_ttl_seconds",
    "cache_max_entries", "react_url", "react_dom_url", "babel_url", "tailwind_url",
    "root_candidates", "max_file_bytes", "structured_logging"]

/-- The setting whose value in the environment is JSON. -/
def jsonField : Text := "root_candidates"

inductive Source
  | environment
  | envFile
deriving DecidableEq

/-- Why settings cannot be loaded: a variable is not the JSON it should be, or something is wrong
with the values. -/
inductive LoadError
  | notJson (field : Text) (source : Source)
  | issues (is : List Issue)

namespace LoadError

def notJsonMessage (field : Text) (source : Source) : Text :=
  let name : Text := match source with
    | .environment => "EnvSettingsSource"
    | .envFile => "DotEnvSettingsSource"
  "error parsing value for field \"" ++ field ++ "\" from source \"" ++ name ++ "\""

end LoadError

/-- The variable of a setting, in small letters. -/
def variableName (field : Text) : Text := "preview_" ++ field

/-- Variables with their names in small letters, of which the last one of a name counts. -/
def lowered (vars : List EnvFile.Binding) : List EnvFile.Binding :=
  vars.foldl (fun found (n, v) => EnvFile.bind n.lower v found) []

/-- The settings that variables give, which are named in small letters. -/
def ofVariables (source : Source) (vars : List EnvFile.Binding) :
    Except LoadError (List (Text × Json)) :=
  fieldNames.foldlM (fun found field =>
    match (vars.lookup (variableName field)).bind id with
    | none => .ok found
    | some value =>
      if field = jsonField then
        match (Json.parse? value).filter fun v => !v.hasIntegerBeyond (10 ^ maxDigits) with
        | none => .error (.notJson field source)
        | some .null => .ok found
        | some v => .ok (found ++ [(field, v)])
      else .ok (found ++ [(field, .string value)])) []

/-- The variable belongs to a setting. -/
def isKnown (name : Text) : Bool :=
  fieldNames.contains name || (fieldNames.map variableName).contains name

/-- The variables of an environment file that belong to no setting, those without a value aside. -/
def strayVariables (vars : List EnvFile.Binding) : List (Text × Json) :=
  vars.filterMap fun (n, v) =>
    match v with
    | none | some [] => none
    | some v => if isKnown n then none else some (n, .string v)

/-- An integer that is at least one. -/
def positive (v : Json) : Checked Int :=
  match Checked.integer v with
  | .ok i => if i < 1 then .fail (.rule "must be >= 1") else .ok i
  | .bad is => .bad is

/-- The settings that the members give; other members are reported behind all else. -/
def check (members : List (Text × Json)) : Checked Settings :=
  let default : Settings := {}
  let settings := Settings.mk
    <$> Checked.member members "env" default.env (Checked.oneOf Platform.choices)
    <*> Checked.member members "debug" default.debug Checked.boolean
    <*> Checked.member members "database_url" default.databaseUrl Checked.text
    <*> Checked.member members "database_pool_size" default.databasePoolSize Checked.integer
    <*> Checked.member members "database_max_overflow" default.databaseMaxOverflow Checked.integer
    <*> Checked.member members "history_default_limit" default.historyDefaultLimit positive
    <*> Checked.member members "history_max_limit" default.historyMaxLimit positive
    <*> Checked.member members "cache_enabled" default.cacheEnabled Checked.boolean
    <*> Checked.member members "cache_ttl_seconds" default.cacheTtlSeconds Checked.integer
    <*> Checked.member members "cache_max_entries" default.cacheMaxEntries positive
    <*> Checked.member members "react_url" default.reactUrl Checked.text
    <*> Checked.member members "react_dom_url" default.reactDomUrl Checked.text
    <*> Checked.member members "babel_url" default.babelUrl Checked.text
    <*> Checked.member members "tailwind_url" default.tailwindUrl Checked.text
    <*> Checked.member members "root_candidates" default.rootCandidates Checked.textTuple
    <*> Checked.member members "max_file_bytes" default.maxFileBytes Checked.integer
    <*> Checked.member members "structured_logging" default.structuredLogging Checked.boolean
  let strays : List Issue := (members.filter fun (n, _) => !fieldNames.contains n).map fun (n, _) =>
    ⟨[.name n], .extra⟩
  match settings with
  | .ok s => if strays = [] then .ok s else .bad strays
  | .bad is => .bad (is ++ strays)

def load (overrides : List (Text × Json)) (environment : List (Text × Text)) (envFile : Text) :
    Except LoadError Settings := do
  let bindings := environment.map fun (n, v) => (n, some v)
  let fromEnvironment ← ofVariables .environment (lowered bindings)
  let vars := lowered (EnvFile.read environment envFile)
  let fromFile := (← ofVariables .envFile vars) ++ strayVariables vars
  let members := (fromEnvironment ++ overrides).foldl (fun ms (n, v) => Json.setMember n v ms)
    fromFile
  match check members with
  | .ok s => return s
  | .bad is => throw (.issues is)

end SitePreview.Settings
