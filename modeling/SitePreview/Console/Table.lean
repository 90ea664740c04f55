import SitePreview.Console.Wrap
import SitePreview.Decimal.Binary

/-! Tables with a heading row, drawn with box characters under a title. A table is as wide as its
content. Where that is too wide for the console, the widest columns shrink first, and their cells
wrap. -/

-- The zero of sums is that of the core library, beside Mathlib too.
attribute [local instance (2000)] Zero.ofOfNat0

namespace SitePreview.Console

open Text

/-- A column of a table: its heading and its cells from top to bottom. -/
structure Column where
  heading : Text
  cells : List Text
  justify : Justify := .left

structure Table where
  title : Text
  columns : List Column

/-- The characters of a horizontal rule: its left end, its stroke, where it crosses the border
between two columns, and its right end. -/
structure Rule where
  left : CodePoint
  stroke : CodePoint
  crossing : CodePoint
  right : CodePoint

namespace Rule

def top : Rule := ⟨'┏', '━', '┳', '┓'⟩

def underHeadings : Rule := ⟨'┡', '━', '╇', '┩'⟩

def bottom : Rule := ⟨'└', '─', '┴', '┘'⟩

/-- The rule over columns of the given widths. -/
def draw (r : Rule) (widths : List Nat) : Text :=
  r.left :: Text.join [r.crossing] (widths.map fun w => List.replicate w r.stroke) ++ [r.right]

end Rule

/-- The line ends that are counted when a cell is measured. -/
def endsLine (c : CodePoint) : Bool :=
  c.inRanges [(0xA, 0xD), (0x1C, 0x1E), (0x85, 0x85), (0x2028, 0x2029)]

def measuredLines : Text → List Text
  | [] => [[]]
  | c :: t =>
    if endsLine c then [] :: measuredLines t
    else
      match measuredLines t with
      | [] => [[c]]
      | line :: lines => (c :: line) :: lines

def greatest (ns : List Nat) : Nat := ns.foldl max 0

def longestLine (t : Text) : Nat := greatest ((measuredLines t).map Text.columns)

/-- The blanks at both sides of a cell together. -/
def cellPadding : Nat := 2

/-- The width of a cell, at most the one that is available. -/
def cellWidth (available : Nat) (t : Text) : Nat :=
  if available ≤ cellPadding then available
  else min available (longestLine t + cellPadding)

namespace Column

def width (available : Nat) (c : Column) : Nat :=
  greatest ((c.heading :: c.cells).map (cellWidth available))

end Column

/-- Takes a total off the values in turn. Each value that has a limit gives the even share of what
is left to take, at most its limit. -/
def reduceEvenly (total : Nat) : List (Nat × Nat) → List Nat
  | [] => []
  | (value, limit) :: rest =>
    if limit = 0 then value :: reduceEvenly total rest
    else
      let others := (rest.filter fun e => e.2 ≠ 0).length
      let share := min limit (Decimal.roundDiv total (others + 1))
      (value - share) :: reduceEvenly (total - share) rest

/-- The widths shrunk to the available width: the widest columns shrink to the next narrower ones,
then these together, and so on. Each round takes something off. -/
def shrink (available : Nat) (widths : List Nat) : Nat → List Nat
  | 0 => widths
  | rounds + 1 =>
    let excess := widths.sum - available
    let widest := greatest widths
    if excess = 0 ∨ widest = 0 then widths
    else
      let next := greatest (widths.filter fun w => w ≠ widest)
      let limit := min excess (widest - next)
      let limits := widths.map fun w => (w, if w = widest then limit else 0)
      shrink available (reduceEvenly excess limits) rounds

namespace Table

/-- The columns that borders take. -/
def borderWidth (t : Table) : Nat := t.columns.length + 1

/-- The columns that are there for cells on a console of the given width. -/
def available (width : Nat) (t : Table) : Nat := width - t.borderWidth

def widths (width : Nat) (t : Table) : List Nat :=
  let available := t.available width
  let natural := t.columns.map fun c => max 1 (c.width available)
  if natural.sum ≤ available then natural
  else t.columns.zipWith (fun c w => c.width w) (shrink available natural natural.sum)

/-- The lines of a cell, each of the full width. -/
def cellLines (justify : Justify) (width : Nat) (t : Text) : List Text :=
  if width ≤ cellPadding then []
  else
    (wrap justify .ellipsis (width - cellPadding) t).map fun line =>
      blanks 1 ++ setColumns (width - cellPadding) line ++ blanks 1

/-- The lines of a row between borders. Cells with fewer lines than the highest one are filled up
with blanks, those of headings in front and all others behind. -/
def rowLines (border : CodePoint) (isHeading : Bool) (cells : List (Nat × List Text)) : List Text :=
  let height := max 1 (greatest (cells.map fun c => c.2.length))
  (List.range height).map fun i =>
    let parts : List Text := cells.map fun (width, lines) =>
      let fill := List.replicate (height - lines.length) (blanks width)
      (if isHeading then fill ++ lines else lines ++ fill).getD i []
    border :: Text.join [border] parts ++ [border]

/-- The number of rows below the headings. -/
def height (t : Table) : Nat := greatest (t.columns.map fun c => c.cells.length)

def lines (width : Nat) (t : Table) : List Text :=
  let widths := t.widths width
  let cells (cell : Column → Text) : List (Nat × List Text) :=
    t.columns.zipWith (fun c w => (w, cellLines c.justify w (cell c))) widths
  let row (i : Nat) : List Text := rowLines '│' false (cells fun c => c.cells.getD i [])
  wrap .center .fold (widths.sum + t.borderWidth) t.title ++
    Rule.top.draw widths :: rowLines '┃' true (cells Column.heading) ++
    Rule.underHeadings.draw widths :: (List.range t.height).flatMap row ++
    [Rule.bottom.draw widths]

end Table

end SitePreview.Console
