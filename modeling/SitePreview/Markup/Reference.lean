import SitePreview.Markup.Search

/-! References to local files. A preview document stands alone, so the tags that would fetch the
project's own styles and scripts are dropped; those with an absolute address stay. -/

namespace SitePreview.Markup

open Text CodePoint

/-- The address starts with a scheme and a colon, or with two slashes. -/
def isAbsoluteAddress (address : Text) : Bool :=
  let isSchemePart (c : CodePoint) : Bool :=
    c.fold.isAsciiLower || c.isAsciiDigit || c = '+' || c = '.' || c = '-'
  match address with
  | [] => false
  | c :: s =>
    (c.fold.isAsciiLower && (s.dropWhile isSchemePart).head? = some ':') ||
      address.startsWith "//"

/-- The address, white space around it aside, is that of a file of the project. -/
def isLocalAddress (address : Text) : Bool := !isAbsoluteAddress address.strip

/-- The value up to the first mark `q` behind which `tail` succeeds, and what is left then. The
value read so far is given last point first. -/
def quotedValue? (q : CodePoint) (tail : Text → Option Text) (read : Text) :
    Text → Option (Text × Text)
  | [] => none
  | c :: s =>
    match if c = q then tail s else none with
    | some rest => some (read.reverse, rest)
    | none => quotedValue? q tail (c :: read) s

/-- The value of an attribute with the given name that stands here, up to a closing mark behind
which `tail` succeeds. -/
def attributeHere? (name : Text) (tail : Text → Option Text) (s : Text) : Option (Text × Text) := do
  match skipBlanks (← after? "=" (skipBlanks (← afterFolded? name s))) with
  | [] => none
  | q :: s => if q = '"' ∨ q = '\'' then quotedValue? q tail [] s else none

/-- The first attribute in a tag whose name ends in the given name at a word boundary and behind
whose value `tail` succeeds. -/
def attribute? (name : Text) (tail : Text → Option Text) (inWord : Bool) :
    Text → Option (Text × Text)
  | [] => none
  | c :: s =>
    match if inWord then none else attributeHere? name tail (c :: s) with
    | some found => some found
    | none => if c = '>' then none else attribute? name tail c.isWord s

/-- What follows spaces, tabs and one line feed. -/
def skipLineEnd (s : Text) : Text := dropPrefix "\n" (skipInline s)

/-- A script tag with an address, its end tag and the rest of its line. -/
def scriptReference? (s : Text) : Option (Text × Text) := do
  let tail (s : Text) : Option Text := do
    some (skipLineEnd (← endTag? "script" (skipBlanks (← tagEnd? s))))
  attribute? "src" tail true (← startTagName? "script" s)

/-- A link tag with an address and the rest of its line. -/
def linkReference? (s : Text) : Option (Text × Text) := do
  let tail (s : Text) : Option Text := do some (skipLineEnd (← tagEnd? s))
  attribute? "href" tail true (← startTagName? "link" s)

/-- Drops the references to local files from left to right. What a reference covers is not looked at
again. -/
def dropLocal (reference : Text → Option (Text × Text)) (s : Text) : Text :=
  match s with
  | [] => []
  | c :: s =>
    match reference (c :: s) with
    | none => c :: dropLocal reference s
    | some (address, rest) =>
      if rest.length < s.length + 1 then
        (if isLocalAddress address then [] else covered (c :: s) rest) ++ dropLocal reference rest
      else c :: dropLocal reference s
termination_by s.length

/-- The document without the script and link tags that refer to local files. -/
def stripLocalReferences (document : Text) : Text :=
  dropLocal linkReference? (dropLocal scriptReference? document)

end SitePreview.Markup
