import SitePreview.Console.ColumnTable

/-! The number of terminal columns that texts take. Control codes and marks that combine with the
code point in front take none, wide code points two, all others one. The joiner hides what follows
it, and the emoji selector widens the code point in front of it. What is drawn as one is a cluster:
a text is cut between clusters only. -/

namespace SitePreview

namespace CodePoint

/-- Joins the code point that follows to the one in front. -/
def joiner : CodePoint := ⟨0x200D, by decide⟩

/-- Asks for the emoji shape of the code point in front. -/
def emojiSelector : CodePoint := ⟨0xFE0F, by decide⟩

def columns (c : CodePoint) : Nat :=
  if 0x20 ≤ c.val && c.val < 0x7F then 1
  else if c.inRanges columnlessRanges then 0
  else if c.inRanges wideRanges then 2
  else 1

/-- The code point takes a second column in its emoji shape. -/
def isWidened (c : CodePoint) : Bool := c.inRanges widenedRanges

end CodePoint

namespace Text

open CodePoint (joiner emojiSelector)

/-- The number of columns of a text that follows `last`, the code point that a selector belongs
to. -/
def columnsAfter (last : Option CodePoint) : Text → Nat
  | [] => 0
  | c :: t =>
    if c = joiner then
      match t with
      | [] => 0
      | _ :: t => columnsAfter last t
    else if c = emojiSelector then
      (if last.any CodePoint.isWidened then 1 else 0) + columnsAfter none t
    else if c.columns = 0 then columnsAfter last t
    else c.columns + columnsAfter (some c) t

def columns (t : Text) : Nat := columnsAfter none t

/-- Code points that are drawn as one, and the columns that they take. -/
structure Cluster where
  text : Text
  columns : Nat

/-- The cluster with more code points that take no columns. -/
def Cluster.extend (g : Cluster) (t : Text) : Cluster := { g with text := g.text ++ t }

/-- The clusters of a text. `cluster` is the one that has begun, `last` the code point in it that a
selector belongs to. A joiner with nothing to join to is a cluster of its own. -/
def clustersFrom (cluster : Option Cluster) (last : Option CodePoint) : Text → List Cluster
  | [] => cluster.toList
  | c :: t =>
    match cluster with
    | none =>
      let size := if c = joiner ∨ c = emojiSelector then 0 else c.columns
      clustersFrom (some ⟨[c], size⟩) (if size = 0 then none else some c) t
    | some g =>
      if c = joiner then
        match t with
        | [] => [g.extend [c]]
        | d :: t => clustersFrom (some (g.extend [c, d])) last t
      else if c = emojiSelector then
        if last.any CodePoint.isWidened then
          clustersFrom (some ⟨g.text ++ [c], g.columns + 1⟩) none t
        else clustersFrom (some (g.extend [c])) last t
      else if c.columns = 0 then clustersFrom (some (g.extend [c])) last t
      else g :: clustersFrom (some ⟨[c], c.columns⟩) (some c) t

def clusters (t : Text) : List Cluster := clustersFrom none none t

/-- The part of the clusters that fills a width. A blank stands for a cluster that reaches beyond
it. -/
def fill (width : Nat) : List Cluster → Text
  | [] => []
  | g :: gs =>
    if width = 0 then []
    else if width < g.columns then [' ']
    else g.text ++ fill (width - g.columns) gs

example : columns "1\uFE0F\u200Dxy" = 3 := by decide +kernel

end Text

end SitePreview
