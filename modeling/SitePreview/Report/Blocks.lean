import SitePreview.Analysis.Summary
import SitePreview.Console.Block
import SitePreview.Trail.History

/-! Reports for human readers: summaries, changes, outcomes, pages of history and lists of files,
laid out as blocks for a console. -/

namespace SitePreview

open Text Console

namespace Report

/-- The texts with commas between them, or a hyphen if there are none. -/
def listed (ts : List Text) : Text := if ts.isEmpty then "-" else Text.join ", " ts

def yesOrNo (b : Bool) : Text := if b then "yes" else "no"

/-- A line that starts with a label; the text behind it starts in the given column. -/
def labelled (column : Nat) (label : String) (t : Text) : Text :=
  let label : Text := label ++ ":"
  "[bold]" ++ label ++ "[/bold]" ++ blanks (column - label.length) ++ t

end Report

open Report

/-- The facts of a summary that are shown. -/
structure SummaryFacts where
  fileCount : Int
  components : List Text
  routes : List Text
  hasCss : Bool
  hasTailwind : Bool
  totalSize : Int

/-- A panel with facts. -/
def SummaryFacts.report (f : SummaryFacts) : List Block :=
  let lines : List Text := [
    labelled 13 "Files" (.ofInt f.fileCount),
    labelled 13 "Size" (.ofInt f.totalSize ++ " bytes"),
    labelled 13 "Components" (listed f.components),
    labelled 13 "Routes" (listed f.routes),
    labelled 13 "CSS" (yesOrNo f.hasCss),
    labelled 13 "Tailwind" (yesOrNo f.hasTailwind)]
  [.panel { title := "Project Summary", content := .ofLines lines }]

/-- A panel with the facts of a summary; it shows no paths. -/
def Summary.report (s : Summary) : List Block :=
  SummaryFacts.report ⟨s.fileCount, s.components, s.routes, s.hasCss, s.hasTailwind, s.totalSize⟩

namespace ChangeSet

/-- How a changed path is described. -/
def kindOf (c : ChangeSet) (path : Text) : Text :=
  if c.added.contains path then "[green]added[/green]" else "[yellow]modified[/yellow]"

/-- How many paths of each kind there are. -/
def counts (c : ChangeSet) : Text :=
  let count (ps : List Text) : Text := "[bold]" ++ ofNat ps.length ++ "[/bold]"
  count c.added ++ " added, " ++ count c.modified ++ " modified, " ++ count c.removed ++ " removed"

/-- A table with a row for each changed path, then for each removed one. -/
def table (c : ChangeSet) : Table :=
  let kinds : List Text :=
    c.changed.map c.kindOf ++ c.removed.map fun _ => ("[red]removed[/red]" : Text)
  { title := "Changes"
    columns := [
      { heading := "Path", cells := c.changed ++ c.removed },
      { heading := "Change", cells := kinds }] }

def report (c : ChangeSet) : List Block :=
  if c.isEmpty then [.text "[dim]No changes.[/dim]"]
  else [.table c.table, .text ("\n" ++ c.counts)]

end ChangeSet

/-- The outcome for a project, with a warning if no version record was written. -/
def SyncResult.report (project : Text) (r : SyncResult) : List Block :=
  let warning : List Block :=
    if r.recorded then []
    else [.text "[yellow]Version store unavailable; no history record was written.[/yellow]"]
  [.text (labelled 9 "Project" project), .text (labelled 9 "Hash" r.hash),
    .text (labelled 9 "Changed" (listed r.changedPaths) ++ "\n" ++
      labelled 9 "Removed" (listed r.removedPaths))] ++ warning

namespace History

/-- A table with a row for each record. Years have no zeros in front. -/
def table (project : Text) (versions : List VersionRecord) : Table :=
  let column (heading : Text) (justify : Justify) (cell : VersionRecord → Text) : Column :=
    { heading := heading, cells := versions.map cell, justify := justify }
  let number (v : VersionRecord) : Text := (v.id.map ofInt).getD "-"
  let message (v : VersionRecord) : Text :=
    if v.message.getD [] = [] then "-" else v.message.getD []
  let created (v : VersionRecord) : Text :=
    (v.createdAt.dateTimeText " ").dropWhile fun c : CodePoint => c = '0'
  { title := "Versions of " ++ project
    columns := [
      column "#" .right number,
      column "Hash" .left VersionRecord.filesHash,
      column "Actor" .left VersionRecord.actorId,
      column "Changed" .right fun v => ofNat v.changedFiles.length,
      column "Removed" .right fun v => ofNat v.removedFiles.length,
      column "Message" .left message,
      column "Created" .left created] }

def report (project : Text) (h : History) : List Block :=
  if !h.available then [.text "[yellow]Version history is unavailable.[/yellow]"]
  else if h.versions.isEmpty then
    [.text ("[dim]No versions recorded for " ++ project ++ ".[/dim]")]
  else [.table (table project h.versions)]

end History

namespace FileSet

/-- A table with the paths in order and the sizes of their contents. It fails at a content that is
not UTF-8. -/
def listing (files : FileSet) : Except EncodeError Table := do
  let sizes ← files.sortedPaths.mapM fun p => (files.content p).toUtf8.map List.length
  return {
    title := "Extracted files (" ++ ofNat files.size ++ ")"
    columns := [
      { heading := "Path", cells := files.sortedPaths },
      { heading := "Bytes", cells := sizes.map ofNat, justify := .right }] }

def report (files : FileSet) : Except EncodeError (List Block) :=
  if files.size = 0 then .ok [.text "[yellow]No files found in response.[/yellow]"]
  else files.listing.map fun t => [.table t]

end FileSet

end SitePreview
