import SitePreview.Console.Markup
import SitePreview.Console.Table

/-! What a console shows: marked-up text, tables and panels one below another. A panel is text in a
frame that fills the width, with a title in the upper edge. All texts are console markup, which is
read before anything is laid out; texts that there is no room for are not read. -/

namespace SitePreview.Console

open Text

structure Panel where
  title : Text
  content : Text

namespace Panel

/-- The columns that the frame takes, with a blank at either side of the content. -/
def frameWidth : Nat := 4

def stroke (n : Nat) : Text := List.replicate n '─'

/-- The title between blanks, in the middle of a part of the upper edge. -/
def titleEdge (width : Nat) (title : Text) : Text :=
  let shown := truncate .fold width (blanks 1 ++ title ++ blanks 1)
  let rest := width - shown.columns
  stroke (rest / 2) ++ shown ++ stroke (rest - rest / 2)

/-- The lines of a panel. A frame that leaves no room for it has no title. -/
def lines (width : Nat) (p : Panel) : List Text :=
  let inside := width - frameWidth
  let edge : Text :=
    if inside = 0 then stroke (width - 2) else stroke 1 ++ titleEdge inside p.title ++ stroke 1
  let body : List Text := (wrap .free .fold inside p.content).map fun line =>
    "│ " ++ setColumns inside line ++ " │"
  ("╭" ++ edge ++ "╮") :: body ++ ["╰" ++ stroke (width - 2) ++ "╯"]

end Panel

/-- The text that markup shows where there is room for it. -/
def shownIf (hasRoom : Bool) (markup : Text) : Except MarkupError Text :=
  if hasRoom then shown markup else .ok []

/-- A table with the text that its marked-up texts show, its columns first. -/
def Table.ofMarkup (width : Nat) (t : Table) : Except MarkupError Table := do
  let hasRoom := cellPadding < t.available width
  let columns ← t.columns.mapM fun c => do
    let heading ← shownIf hasRoom c.heading
    let cells ← c.cells.mapM (shownIf hasRoom)
    return { c with heading := heading, cells := cells }
  return { title := ← shown t.title, columns := columns }

/-- A panel with the text that its marked-up content shows. -/
def Panel.ofMarkup (width : Nat) (p : Panel) : Except MarkupError Panel :=
  (shownIf (Panel.frameWidth < width) p.content).map fun content => { p with content := content }

inductive Block
  | text (markup : Text)
  | table (t : Table)
  | panel (p : Panel)

def Block.lines (width : Nat) : Block → Except MarkupError (List Text)
  | text markup => (shown markup).map (wrap .free .fold width)
  | table t => if width = 0 then .ok [] else (t.ofMarkup width).map (Table.lines width)
  | panel p => if width = 0 then .ok [] else (p.ofMarkup width).map (Panel.lines width)

/-- The text of blocks on a console of a width. -/
def print (width : Nat) (blocks : List Block) : Except MarkupError Text := do
  let lines ← blocks.mapM (Block.lines width)
  return lines.flatten.flatMap fun l => crop width l ++ "\n"

end SitePreview.Console
