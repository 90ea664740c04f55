import SitePreview.Settings.Basic

/-! Setting up the root logger. Structured logging takes the place of all handlers there are; plain
logging adds a handler only where there is none. -/

namespace SitePreview.Log

inductive Format
  | plain
  | json
deriving DecidableEq

inductive Handler
  | silent
  | stream (format : Format)
deriving DecidableEq

/-- The root logger: records below its level are dropped. -/
structure RootLogger where
  level : Int := 30
  handlers : List Handler := []
deriving DecidableEq

/-- The level for settings that name none. -/
def defaultLevel (s : Settings) : Int := if s.debug then 10 else 20

/-- The root logger as settings want it. -/
def RootLogger.configure (root : RootLogger) (s : Settings) (level : Option Int) : RootLogger :=
  let level := level.getD (defaultLevel s)
  if s.structuredLogging then ⟨level, [.stream .json]⟩
  else if root.handlers.isEmpty then ⟨level, [.stream .plain]⟩
  else root

end SitePreview.Log
