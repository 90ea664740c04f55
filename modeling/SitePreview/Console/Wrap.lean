import SitePreview.Console.Columns
import SitePreview.Text.Basic
import SitePreview.Text.Blank

/-! Wrapping text to a width counted in columns. Lines are broken in front of words; what blanks
reach beyond the width at the end of a line is dropped. A word that fits on no line is broken
anywhere, or cut with an ellipsis. -/

namespace SitePreview.Console

open Text

/-- What happens to words that fit on no line. -/
inductive Overflow
  | fold
  | ellipsis
deriving DecidableEq

/-- Where text stands in its width. Free lines are not padded. -/
inductive Justify
  | free
  | left
  | center
  | right
deriving DecidableEq

def blanks (n : Nat) : Text := List.replicate n ' '

/-- The text with blanks behind it up to the width. -/
def padTo (width : Nat) (t : Text) : Text := t ++ blanks (width - t.columns)

/-- The text cut or padded to a width. -/
def setColumns (width : Nat) (t : Text) : Text :=
  if width = 0 then []
  else if t.columns ≤ width then padTo width t
  else fill width t.clusters

/-- The text cut to a width if it is wider. -/
def truncate (overflow : Overflow) (width : Nat) (t : Text) : Text :=
  if t.columns ≤ width then t
  else
    match overflow with
    | .fold => setColumns width t
    | .ellipsis => setColumns (width - 1) t ++ [CodePoint.ofChar '…']

def stripRight (t : Text) : Text := dropRightWhile CodePoint.isBlank t

/-- A word with the blanks around it, and what follows. Blanks in front belong to it only at the
start of a line, for those behind a word are its own. -/
def wordAt? (t : Text) : Option (Text × Text) :=
  let front := t.takeWhile CodePoint.isBlank
  let t := t.drop front.length
  let word := t.takeWhile fun c => !c.isBlank
  if word = [] then none
  else
    let t := t.drop word.length
    let behind := t.takeWhile CodePoint.isBlank
    some (front ++ word ++ behind, t.drop behind.length)

/-- The words of a line with the blanks around them. What is left without a word is no word. -/
def wordsFrom (t : Text) : List Text :=
  match wordAt? t with
  | none => []
  | some (word, rest) => if rest.length < t.length then word :: wordsFrom rest else [word]
termination_by t.length

/-- The clusters in pieces that each fit into the width, as far as single clusters do. `piece` is
the one that has begun, and `used` the columns that it takes; no piece without columns ends the
list. -/
def chopFrom (width : Nat) (piece : Text) (used : Nat) : List Cluster → List Text
  | [] => if used = 0 then [] else [piece]
  | g :: gs =>
    if width < used + g.columns then piece :: chopFrom width g.text g.columns gs
    else chopFrom width (piece ++ g.text) (used + g.columns) gs

/-- The text in pieces that each fit into the width, as far as single clusters do. -/
def chop (width : Nat) (t : Text) : List Text := chopFrom width [] 0 t.clusters

/-- The places at which a word is broken that starts at a place, and the columns that its last piece
takes. -/
def foldBreaks (start : Nat) : List Text → List Nat × Nat
  | [] => ([], 0)
  | [piece] => (if start = 0 then [] else [start], piece.columns)
  | piece :: pieces =>
    let (breaks, used) := foldBreaks (start + piece.length) pieces
    (if start = 0 then breaks else start :: breaks, used)

/-- The places at which a line is broken. `start` is the place of the next word, `used` the number
of columns in front of it on its line. -/
def breaksFrom (overflow : Overflow) (width start used : Nat) : List Text → List Nat
  | [] => []
  | word :: words =>
    let size := (stripRight word).columns
    let next := start + word.length
    if size + used ≤ width then breaksFrom overflow width next (used + word.columns) words
    else if width < size then
      match overflow with
      | .fold =>
        let (breaks, used) := foldBreaks start (chop width word)
        breaks ++ breaksFrom overflow width next used words
      | .ellipsis =>
        (if start = 0 then [] else [start]) ++ breaksFrom overflow width next word.columns words
    else if used ≠ 0 ∧ start ≠ 0 then
      start :: breaksFrom overflow width next word.columns words
    else breaksFrom overflow width next used words

/-- The parts of a text between places in rising order; `start` is the place of its start. -/
def divide (start : Nat) (t : Text) : List Nat → List Text
  | [] => [t]
  | place :: places =>
    t.take (place - start) :: divide place (t.drop (place - start)) places

/-- The text without those trailing blanks that make it longer than the width. -/
def dropExcess (width : Nat) (t : Text) : Text :=
  if t.length ≤ width then t
  else t.take (t.length - min (takeRightWhile CodePoint.isBlank t).length (t.length - width))

/-- The number of columns from one tab stop to the next. -/
def tabSize : Nat := 8

/-- The text between tabs, with blanks from each to the next tab stop; `used` is the number of
columns in front. -/
def alignParts (used : Nat) : List Text → Text
  | [] => []
  | [part] => part
  | part :: parts =>
    let next := used + (part ++ blanks 1).columns
    let fill := if next % tabSize = 0 then 0 else tabSize - next % tabSize
    part ++ blanks (fill + 1) ++ alignParts (next + fill) parts

/-- Tabs as blanks up to the next stop. -/
def expandTabs (t : Text) : Text := alignParts 0 (t.splitOn '\t')

/-- A line at its place in the width. -/
def justifyLine (justify : Justify) (overflow : Overflow) (width : Nat) (t : Text) : Text :=
  match justify with
  | .free => t
  | .left => padTo width (truncate overflow width t)
  | .center =>
    let t := truncate overflow width (stripRight t)
    padTo width (blanks ((width - t.columns) / 2) ++ t)
  | .right =>
    let t := truncate overflow width (stripRight t)
    blanks (width - t.columns) ++ t

/-- The lines of a text that is one line, wrapped. -/
def wrapLine (justify : Justify) (overflow : Overflow) (width : Nat) (t : Text) : List Text :=
  let t := expandTabs t
  (divide 0 t (breaksFrom overflow width 0 0 (wordsFrom t))).map fun line =>
    truncate overflow width (justifyLine justify overflow width (dropExcess width line))

/-- The lines of a text, wrapped. There is no line without columns. -/
def wrap (justify : Justify) (overflow : Overflow) (width : Nat) (t : Text) : List Text :=
  if width = 0 then [] else (t.splitOn '\n').flatMap (wrapLine justify overflow width)

def crop (width : Nat) (line : Text) : Text :=
  if line.columns ≤ width then line else setColumns width line

end SitePreview.Console
