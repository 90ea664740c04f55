import SitePreview.Cache
import SitePreview.Document.Options

/-! Settings of the program: where state is kept, how much history and cache it keeps, where preview
libraries come from, which files are read, and how it logs. -/

namespace SitePreview

inductive Platform
  | dev
  | staging
  | prod
deriving DecidableEq

namespace Platform

def name : Platform → Text
  | dev => "dev"
  | staging => "staging"
  | prod => "prod"

def choices : List (Text × Platform) := [("dev", dev), ("staging", staging), ("prod", prod)]

end Platform

structure Settings where
  env : Platform := .dev
  debug : Bool := false
  databaseUrl : Text := "sqlite+aiosqlite:///.livepreview/state.db"
  databasePoolSize : Int := 10
  databaseMaxOverflow : Int := 20
  historyDefaultLimit : Int := 20
  historyMaxLimit : Int := 50
  cacheEnabled : Bool := true
  cacheTtlSeconds : Int := 300
  cacheMaxEntries : Int := 1000
  reactUrl : Text := "https://unpkg.com/react@18/umd/react.development.js"
  reactDomUrl : Text := "https://unpkg.com/react-dom@18/umd/react-dom.development.js"
  babelUrl : Text := "https://unpkg.com/@babel/standalone/babel.min.js"
  tailwindUrl : Text := "https://cdn.tailwindcss.com"
  rootCandidates : List Text := defaultRootCandidates
  maxFileBytes : Int := 1000000
  structuredLogging : Bool := false
deriving DecidableEq

/-- How long and how much to cache. -/
def Settings.cachePolicy (s : Settings) : CachePolicy :=
  ⟨.ofInt s.cacheTtlSeconds, s.cacheMaxEntries, s.cacheEnabled⟩

/-- The options of preview documents under the settings. -/
def Settings.previewOptions (s : Settings) (title : Text) : PreviewOptions :=
  { reactUrl := s.reactUrl
    reactDomUrl := s.reactDomUrl
    babelUrl := s.babelUrl
    tailwindUrl := s.tailwindUrl
    rootCandidates := s.rootCandidates
    title := title }

end SitePreview
