import SitePreview.Text.Blank
import SitePreview.Text.Fold

/-! Facts read off the text of a source: declared component names, routes and the use of utility
classes. Nothing is parsed; what does not look as expected yields nothing. -/

namespace SitePreview

open Text CodePoint

def declarationKeywords : List Text := ["function", "const", "let", "var", "class"]

def isNamePart (c : CodePoint) : Bool := c.isAsciiLetter || c.isAsciiDigit || c = '_'

/-- The capitalised name that a declaration standing here gives, and what follows it. -/
def declaration? (s : Text) : Option (Text × Text) :=
  declarationKeywords.findSome? fun keyword =>
    match wordAndBlanks? keyword s with
    | some (c :: rest) =>
      if c.isAsciiUpper then some (c :: rest.takeWhile isNamePart, rest.dropWhile isNamePart)
      else none
    | _ => none

/-- The capitalised names that declarations give from left to right; `inWord` tells whether a word
code point stands in front of the text. -/
def declaredNamesFrom (inWord : Bool) (s : Text) : List Text :=
  match s with
  | [] => []
  | c :: s =>
    match if inWord then none else declaration? (c :: s) with
    | none => declaredNamesFrom c.isWord s
    | some (name, rest) =>
      -- a name ends in a word code point
      if rest.length < s.length + 1 then name :: declaredNamesFrom true rest
      else declaredNamesFrom c.isWord s
termination_by s.length

/-- The capitalised names that a source declares, each once, in order of first appearance. -/
def componentNames (source : Text) : List Text := distinct (declaredNamesFrom false source)

def isQuoteMark (c : CodePoint) : Bool := c = '"' || c = '\'' || c = '\x60'

/-- The value part of an attribute from the sign of equality on: what follows the quote mark that
opens it, which may stand in a brace. -/
def attributeValue? (s : Text) : Option Text := do
  let s ← after? "=" (skipBlanks s)
  match skipBlanks (dropPrefix "\x7b" (skipBlanks s)) with
  | [] => none
  | c :: s => if isQuoteMark c then some s else none

/-- The route given by a `path` attribute standing here, and what follows its quote marks. -/
def route? (s : Text) : Option (Text × Text) := do
  let value ← attributeValue? (← after? "path" s)
  let route := value.takeWhile fun c => !isQuoteMark c
  match value.dropWhile fun c => !isQuoteMark c with
  | [] => none
  | _ :: rest => if route = [] then none else some (route, rest)

/-- The routes given by `path` attributes from left to right. -/
def routesFrom (inWord : Bool) (s : Text) : List Text :=
  match s with
  | [] => []
  | c :: s =>
    match if inWord then none else route? (c :: s) with
    | none => routesFrom c.isWord s
    | some (route, rest) =>
      -- the closing quote mark is no word code point
      if rest.length < s.length + 1 then route :: routesFrom false rest else routesFrom c.isWord s
termination_by s.length

/-- The routes that a source gives, each once, in order of first appearance. -/
def routes (source : Text) : List Text := distinct (routesFrom false source)

/-- Utility classes known by how they start. -/
def utilityStarts : List Text :=
  ["bg-", "text-", "w-", "h-", "rounded", "shadow", "gap-", "space-x-", "space-y-", "items-",
    "justify-"]

/-- Utility classes known by their whole word. -/
def utilityWords : List Text := ["flex", "grid", "border"]

/-- The classes for spacing: a letter, perhaps a side, a hyphen and a digit. -/
def isSpacingClass (s : Text) : Bool :=
  match s with
  | [] => false
  | c :: s =>
    let sides : Text := "xytrbl"
    let s := match s with
      | [] => []
      | d :: rest => if sides.contains d.fold then rest else d :: rest
    (c.fold = 'p' || c.fold = 'm') &&
      match s with
      | h :: d :: _ => h = '-' && d.isDigit
      | _ => false

/-- A utility class stands here, in letters of any case. -/
def startsUtilityClass (s : Text) : Bool :=
  (utilityStarts.any fun w => (afterFolded? w s).isSome) ||
    (utilityWords.any fun w => (afterWord? w s).isSome) || isSpacingClass s

/-- A utility class starts at a word boundary in front of the next quote mark. -/
def valueHasUtilityClass (inWord : Bool) : Text → Bool
  | [] => false
  | c :: s =>
    (!inWord && startsUtilityClass (c :: s)) ||
      (!isQuoteMark c && valueHasUtilityClass c.isWord s)

/-- A `class` or `className` attribute with a utility class stands here. -/
def startsUtilityAttribute (s : Text) : Bool :=
  match afterFolded? "class" s with
  | none => false
  | some rest =>
    match attributeValue? ((afterFolded? "name" rest).getD rest) with
    | none => false
    | some value => valueHasUtilityClass false value

/-- The text has a `class` or `className` attribute with a utility class. -/
def hasUtilityAttribute (inWord : Bool) : Text → Bool
  | [] => false
  | c :: s =>
    (!inWord && startsUtilityAttribute (c :: s)) || hasUtilityAttribute c.isWord s

/-- The text uses utility classes or names their framework. -/
def usesUtilityClasses (source : Text) : Bool :=
  hasUtilityAttribute false source || includesFolded "tailwind" source

end SitePreview
