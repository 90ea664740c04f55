import SitePreview.Proofs.Text.Parts
import SitePreview.Source.Module

/-! Sources made of items: module statements, exported declarations and lines of anything else. Each
item is written out from its parts, so every way to lay one out over several lines is covered. -/

namespace SitePreview.Source

open Text CodePoint

/-- White space, of which there may be none. -/
structure Blanks where
  text : Text
  all_blank : ∀ c ∈ text, c.isBlank = true

/-- White space. -/
structure Gap extends Blanks where
  ne_nil : text ≠ []

/-- White space that stays within its line. -/
structure LineGap extends Gap where
  no_lineFeed : ofChar '\n' ∉ text

/-- Spaces and tabs, of which there may be none. -/
structure Indent where
  text : Text
  all_inline : ∀ c ∈ text, c.isInlineBlank = true

/-- A name is a word that does not start a module statement. -/
structure Identifier where
  text : Text
  ne_nil : text ≠ []
  all_part : ∀ c ∈ text, c.isIdentifierPart = true
  ne_import : text ≠ "import"
  ne_export : text ≠ "export"

/-- A comma or white space. -/
def isSeparator (c : CodePoint) : Bool := c = ',' || c.isBlank

/-- Commas and white space. -/
structure Separators where
  text : Text
  all_separator : ∀ c ∈ text, isSeparator c = true
  ne_nil : text ≠ []

/-- Names, `as` among them, with commas and white space between them. -/
inductive NameList
  | none
  | one (name : Identifier)
  | more (name : Identifier) (separators : Separators) (names : NameList)

def NameList.text : NameList → Text
  | none => []
  | one name => name.text
  | more name separators names => name.text ++ (separators.text ++ names.text)

/-- Names in braces. -/
structure Braces where
  before : Option Separators
  names : NameList

def Braces.text (b : Braces) : Text :=
  ofChar '\x7b' :: ((b.before.elim [] Separators.text) ++ (b.names.text ++ [ofChar '\x7d']))

/-- A quoted module name. -/
structure Specifier where
  quote : CodePoint
  name : Text
  quote_eq : quote = '"' ∨ quote = '\''
  no_quote : quote ∉ name
  no_lineFeed : ofChar '\n' ∉ name

def Specifier.text (s : Specifier) : Text := s.quote :: (s.name ++ [s.quote])

/-- The end of a statement, with a semicolon or without. -/
structure Ending where
  before : Indent
  semicolon : Bool
  after : Indent

def Ending.text (e : Ending) : Text :=
  e.before.text ++ ((if e.semicolon then [ofChar ';'] else []) ++ e.after.text)

/-- `from` and a module name up to the end of the statement. -/
structure Origin where
  blanks : Blanks
  specifier : Specifier
  ending : Ending

def Origin.text (o : Origin) : Text :=
  ofString "from" ++ (o.blanks.text ++ (o.specifier.text ++ o.ending.text))

/-- `* as` and a name. -/
structure Namespace where
  blanks : Blanks
  gap : Gap
  name : Identifier

def Namespace.text (n : Namespace) : Text :=
  ofChar '*' :: (n.blanks.text ++ (ofString "as" ++ (n.gap.text ++ n.name.text)))

/-- The name of a default import in front of other imports. -/
structure LeadingName where
  name : Identifier
  before : Blanks
  after : Blanks

def LeadingName.text (n : LeadingName) : Text :=
  n.name.text ++ (n.before.text ++ ofChar ',' :: n.after.text)

/-- What an import names. -/
inductive ImportClause
  | name (n : Identifier) (gap : Gap)
  | star (leading : Option LeadingName) (names : Namespace) (gap : Gap)
  | list (leading : Option LeadingName) (names : Braces) (blanks : Blanks)

def ImportClause.text : ImportClause → Text
  | name n gap => n.text ++ gap.text
  | star leading names gap => leading.elim [] LeadingName.text ++ (names.text ++ gap.text)
  | list leading names blanks => leading.elim [] LeadingName.text ++ (names.text ++ blanks.text)

/-- The word `type` with white space behind it, if it is there. -/
def typeText : Option Gap → Text
  | none => []
  | some gap => ofString "type" ++ gap.text

/-- `as` and a name with white space around them. -/
structure Alias where
  before : Gap
  name : Identifier
  after : Gap

def Alias.text (a : Alias) : Text :=
  ofString "as" ++ (a.before.text ++ (a.name.text ++ a.after.text))

/-- A name that can be exported as the default. -/
structure DefaultName where
  name : Identifier
  starts : ∃ c s, name.text = c :: s ∧ c.isIdentifierStart = true
  not_keyword : ∀ word ∈ ([ofString "function", ofString "class", ofString "async"] : List Text),
    ¬word <+: name.text

/-- The words in front of the name of a function or a class. -/
inductive Definition
  | functionWord (async : Option LineGap)
  | classWord

def Definition.text : Definition → Text
  | functionWord none => "function"
  | functionWord (some gap) => ofString "async" ++ (gap.text ++ ofString "function")
  | classWord => "class"

/-- The words in front of the name of what is declared. -/
inductive Keyword
  | definition (d : Definition)
  | constWord
  | letWord
  | varWord

def Keyword.text : Keyword → Text
  | definition d => d.text
  | constWord => "const"
  | letWord => "let"
  | varWord => "var"

/-- The word stands there, with white space, a quote or nothing behind it. -/
def standsAlone (word s : Text) : Bool :=
  match after? word s with
  | none => false
  | some [] => true
  | some (c :: _) => c.isBlank || c = '"' || c = '\''

/-- The line opens with a word that module statements start with. -/
def Opening (s : Text) : Prop :=
  standsAlone "import" (skipInline s) = true ∨ standsAlone "export" (skipInline s) = true

/-- A line within a declaration, which opens no module statement. -/
structure InnerLine where
  text : Text
  no_lineFeed : ofChar '\n' ∉ text
  not_opening : ¬Opening text

/-- What stands behind the first words of a declaration, which end there: the rest of the line and
further lines. -/
structure Body where
  rest : Text
  ends_word : notAhead isIdentifierPart rest = true
  no_lineFeed : ofChar '\n' ∉ rest
  lines : List InnerLine

def Body.text (b : Body) : Text := b.rest ++ b.lines.flatMap fun l => ofChar '\n' :: l.text

/-- What can be exported. -/
inductive Export
  | all (gap : Gap) (name : Option Alias) (origin : Origin)
  | list (type : Option Gap) (names : Braces) (origin : Blanks × Origin ⊕ Ending)
  | defaultName (gap : Gap) (name : DefaultName) (ending : Ending)
  | default (gap : Gap) (definition : Definition) (body : Body)
  | declaration (keyword : Keyword) (body : Body)

def Export.text : Export → Text
  | all gap name origin =>
    ofChar '*' :: (gap.text ++ (name.elim [] Alias.text ++ origin.text))
  | list type names (.inl (blanks, origin)) =>
    typeText type ++ (names.text ++ (blanks.text ++ origin.text))
  | list type names (.inr ending) => typeText type ++ (names.text ++ ending.text)
  | defaultName gap name ending =>
    ofString "default" ++ (gap.text ++ (name.name.text ++ ending.text))
  | default gap definition body =>
    ofString "default" ++ (gap.text ++ (definition.text ++ body.text))
  | declaration keyword body => keyword.text ++ body.text

/-- The first word of a text, white space in front of it skipped. -/
def firstToken (s : Text) : Text := (skipBlanks s).takeWhile isIdentifierPart

/-- A line that starts with none of the words of module statements. -/
structure Line where
  text : Text
  no_lineFeed : ofChar '\n' ∉ text
  firstToken_ne : firstToken text ∉ ([ofString "import", ofString "export", ofString "from"] :
    List Text)

/-- An item of a source. -/
inductive Item
  | importFrom (indent : Indent) (gap : Gap) (type : Option Gap) (clause : ImportClause)
      (origin : Origin)
  | importEffect (indent : Indent) (blanks : Blanks) (specifier : Specifier) (ending : Ending)
  | exported (indent : Indent) (gap : Gap) (body : Export)
  | declared (indent : Indent) (keyword : Keyword) (body : Body)
  | line (line : Line)

def Item.text : Item → Text
  | importFrom indent gap type clause origin =>
    indent.text ++
      (ofString "import" ++ (gap.text ++ (typeText type ++ (clause.text ++ origin.text))))
  | importEffect indent blanks specifier ending =>
    indent.text ++ (ofString "import" ++ (blanks.text ++ (specifier.text ++ ending.text)))
  | exported indent gap body => indent.text ++ (ofString "export" ++ (gap.text ++ body.text))
  | declared indent keyword body => indent.text ++ (keyword.text ++ body.text)
  | line l => l.text

/-- The items one after another, each ended by a line feed, and then one without, if there is
one. -/
def source : List Item → Option Item → Text
  | [], none => []
  | [], some item => item.text
  | item :: items, last => item.text ++ ofChar '\n' :: source items last

/-- What elimination leaves of an item: nothing of statements, and of an exported declaration the
declaration. -/
def Item.rest? : Item → Option Item
  | importFrom .. => none
  | importEffect .. => none
  | exported _ _ (.all ..) => none
  | exported _ _ (.list ..) => none
  | exported _ _ (.defaultName ..) => none
  | exported indent _ (.default _ definition body) =>
    some (declared indent (.definition definition) body)
  | exported indent _ (.declaration keyword body) => some (declared indent keyword body)
  | declared indent keyword body => some (declared indent keyword body)
  | line l => some (line l)

end SitePreview.Source
