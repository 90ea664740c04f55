import SitePreview.Source.Mount
import SitePreview.Text.Blank

/-! Normal sources. A component source is normalised so that it can share one script with others:
the statements that move names across files and those that mount a component are gone, a run of
blank lines becomes one, and the first and last lines are not blank. -/

namespace SitePreview.Source

open Text CodePoint

/-- What follows a line of spaces and tabs. -/
def blankLine? (s : Text) : Option Text := after? ['\n'] (skipInline s)

/-- The number of blank lines at the start and the text behind them. -/
def blankRun (s : Text) : Nat × Text :=
  match blankLine? s with
  | none => (0, s)
  | some rest =>
    if rest.length < s.length then ((blankRun rest).1 + 1, (blankRun rest).2) else (0, s)
termination_by s.length

/-- Two or more blank lines behind a line end become one. -/
def collapseRuns (s : Text) : Text :=
  match s with
  | [] => []
  | c :: s =>
    if c = '\n' ∧ 2 ≤ (blankRun s).1 ∧ (blankRun s).2.length ≤ s.length then
      '\n' :: '\n' :: collapseRuns (blankRun s).2
    else c :: collapseRuns s
termination_by s.length

/-- The text without the line ends, spaces and tabs at its end, from the first of these line ends
on. -/
def dropLastBlankLines (s : Text) : Text :=
  let isTail (c : CodePoint) : Bool := c = '\n' || c.isInlineBlank
  dropRightWhile isTail s ++ (takeRightWhile isTail s).takeWhile fun c : CodePoint => c ≠ '\n'

/-- Collapses runs of blank lines and drops those at the start and the end. -/
def collapseBlankLines (s : Text) : Text :=
  dropLastBlankLines (blankRun (collapseRuns s)).2

inductive Pass
  | imports
  | reexports
  | defaultExports
  | namedExports
  | mountCalls
  | blankLines
deriving DecidableEq

namespace Pass

/-- The passes in the order in which they run. -/
def all : List Pass :=
  [imports, reexports, defaultExports, namedExports, mountCalls, blankLines]

def name : Pass → Text
  | imports => "imports"
  | reexports => "reexports"
  | defaultExports => "default_exports"
  | namedExports => "named_exports"
  | mountCalls => "mount_calls"
  | blankLines => "blank_lines"

def ofName? (name : Text) : Option Pass := all.find? fun p => p.name = name

def run : Pass → Text → Text
  | imports => stripImports
  | reexports => stripReexports
  | defaultExports => unwrapDefaultExports
  | namedExports => stripNamedExports
  | mountCalls => stripMountCalls
  | blankLines => collapseBlankLines

end Pass

/-- Runs every pass on the source with its line ends made line feeds. -/
def normalize (source : Text) : Text :=
  Pass.all.foldl (fun s p => p.run s) (Text.normalizeLineEnds source)

end SitePreview.Source
