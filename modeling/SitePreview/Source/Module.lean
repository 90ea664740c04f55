import SitePreview.Source.Edit
import SitePreview.Text.Word

/-! Module statements: imports, re-exports, export lists and exported declarations. Each is
recognised from the start of its line on; the recognisers give the text behind the statement. -/

namespace SitePreview.Source

open Text CodePoint

/-- The end of a statement: an optional semicolon among spaces and tabs, then the end of the line,
which belongs to the statement, or of the text. -/
def statementTail? (s : Text) : Option Text :=
  match skipInline (dropPrefix ";" (skipInline s)) with
  | [] => some []
  | c :: rest => if c = '\n' then some rest else none

/-- A quoted module name, which holds neither its own quote nor a line feed. -/
def moduleSpecifier? : Text → Option Text
  | [] => none
  | q :: s =>
    if q = '"' ∨ q = '\'' then after? [q] (s.dropWhile fun c : CodePoint => c ≠ q && c ≠ '\n')
    else none

/-- The word `from` with white space around it, and a quoted module name. -/
def fromClause? (s : Text) : Option Text := do
  moduleSpecifier? (skipBlanks (← after? "from" (skipBlanks s)))

/-- What follows a list in braces. -/
def braceList? (s : Text) : Option Text := do
  after? ['\x7d'] ((← after? ['\x7b'] s).dropWhile fun c : CodePoint => c ≠ '\x7d')

/-- What the names in front of a brace list or a module name consist of. -/
def isImportClause (c : CodePoint) : Bool := c.isIdentifierPart || c = '*' || c = ',' || c.isBlank

/-- Names that start with no comma, then the word `from` up to white space at the end. -/
def endsWithFrom (names : Text) : Bool :=
  let bare := dropRightWhile isBlank names
  match bare.take (bare.length - 4) with
  | [] => false
  | c :: _ => bare.endsWith "from" && (c.isIdentifierPart || c = '*')

/-- `import` with default name, namespace or brace list, `from` and a module name. -/
def importFrom? (s : Text) : Option Text := do
  let s ← wordAndBlanks? "import" (skipInline s)
  match s.dropWhile isImportClause with
  | [] => none
  | c :: rest =>
    if c = '\x7b' then statementTail? (← fromClause? (← braceList? (c :: rest)))
    else if endsWithFrom (s.takeWhile isImportClause) then
      statementTail? (← moduleSpecifier? (c :: rest))
    else none

/-- `import` of a module for its effects. -/
def importEffect? (s : Text) : Option Text := do
  statementTail? (← moduleSpecifier? (skipBlanks (← after? "import" (skipInline s))))

/-- `export *`, with or without a name, from a module. -/
def exportStar? (s : Text) : Option Text := do
  let s ← wordAndBlanks? "export" (skipInline s)
  let s ← skipSomeBlanks? (← after? "*" s)
  let named : Option Text := do
    let s ← wordAndBlanks? "as" s
    if s.takeWhile isIdentifierPart = [] then none
    else skipSomeBlanks? (s.dropWhile isIdentifierPart)
  statementTail? (← fromClause? (named.getD s))

/-- `export` of a brace list, from a module or not. -/
def exportList? (s : Text) : Option Text := do
  let s ← wordAndBlanks? "export" (skipInline s)
  let s ← braceList? ((wordAndBlanks? "type" s).getD s)
  ((fromClause? s).bind statementTail?).orElse fun _ => statementTail? s

/-- A declaration starts with one of the words, which ends at a word boundary. -/
def startsDeclaration (words : List Text) (s : Text) : Bool :=
  words.any fun word => ((after? word s).map wordEnds).getD false

/-- A function declaration, asynchronous or not. -/
def startsFunction (s : Text) : Bool :=
  startsDeclaration ["function"] ((wordAndBlanks? "async" s).getD s)

/-- `export default` in front of a function or a class. -/
def defaultExport? (s : Text) : Option Text := do
  let s ← wordAndBlanks? "default" (← wordAndBlanks? "export" s)
  if startsFunction s || startsDeclaration ["class"] s then some s else none

/-- `export default` of a name. -/
def defaultExportName? (s : Text) : Option Text := do
  let s ← wordAndBlanks? "default" (← wordAndBlanks? "export" (skipInline s))
  match s with
  | [] => none
  | c :: s =>
    if c.isIdentifierStart then statementTail? (s.dropWhile isIdentifierPart) else none

/-- `export` in front of a function, a class or a variable. -/
def namedExport? (s : Text) : Option Text := do
  let s ← wordAndBlanks? "export" s
  if startsFunction s || startsDeclaration ["class", "const", "let", "var"] s then some s else none

def stripImports (source : Text) : Text :=
  removeStatements importEffect? (removeStatements importFrom? source)

/-- Removes re-exports and export lists. -/
def stripReexports (source : Text) : Text :=
  removeStatements exportList? (removeStatements exportStar? source)

/-- Makes default exports of functions and classes plain declarations and removes those of names. -/
def unwrapDefaultExports (source : Text) : Text :=
  removeStatements defaultExportName? (removeLeadingWords defaultExport? source)

/-- Makes exported declarations plain declarations. -/
def stripNamedExports (source : Text) : Text := removeLeadingWords namedExport? source

end SitePreview.Source
