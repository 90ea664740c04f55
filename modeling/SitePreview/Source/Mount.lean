import SitePreview.Source.Module

/-! Mount statements: the statements with which a source attaches its root component to the page.
They are found by their first words and end where their last chained call ends. -/

namespace SitePreview.Source

open Text CodePoint

/-! ### The extent of a call

Parentheses are balanced outside of strings and templates. -/

/-- One of the three marks that open and close strings and templates. -/
def isQuote (c : CodePoint) : Bool := c = '"' || c = '\'' || c = '\x60'

/-- What follows the parenthesis that closes the outermost of `depth` open ones. Inside a string,
opened by `quote`, parentheses do not count and a backslash covers the next code point. -/
def closeCall? (quote : Option CodePoint) (depth : Nat) : Text → Option Text
  | [] => none
  | c :: s =>
    match quote with
    | some q =>
      if c = '\\' then
        match s with
        | [] => none
        | _ :: s => closeCall? quote depth s
      else closeCall? (if c = q then none else quote) depth s
    | none =>
      if isQuote c then closeCall? (some c) depth s
      else if c = '(' then closeCall? none (depth + 1) s
      else if c = ')' then if depth ≤ 1 then some s else closeCall? none (depth - 1) s
      else closeCall? none depth s

/-- What follows the call whose parenthesis opens here, or `none` when it is not closed. -/
def callRest? : Text → Option Text
  | [] => none
  | c :: s => if c = '(' then closeCall? none 1 s else none

/-- What follows the word `.name` of a chained call, from its parenthesis on. -/
def chainedCall? (s : Text) : Option Text := do
  match skipBlanks (← after? "." (skipBlanks s)) with
  | [] => none
  | c :: s =>
    if c.isIdentifierStart then
      let s := skipBlanks (s.dropWhile isIdentifierPart)
      if s.head? = some '(' then some s else none
    else none

/-- What follows the statement whose first call opens here, with every call chained to it. -/
def callStatement? (s : Text) : Option Text :=
  match callRest? s with
  | none => none
  | some rest =>
    match chainedCall? rest with
    | none => statementTail? rest
    | some chained => if chained.length < s.length then callStatement? chained else none
termination_by s.length

/-! ### Mounting -/

/-- The words `ReactDOM` and a point with white space around it. -/
def reactDom? (s : Text) : Option Text := do
  some (skipBlanks (← after? "." (skipBlanks (← after? "ReactDOM" s))))

/-- The text from an opening parenthesis on, white space in front of it skipped. -/
def openParen? (s : Text) : Option Text :=
  let s := skipBlanks s
  if s.head? = some '(' then some s else none

/-- `createRoot` or `hydrateRoot`, with or without `ReactDOM`, up to the parenthesis. -/
def rootCall? (s : Text) : Option Text :=
  let s := (reactDom? s).getD s
  ((after? "createRoot" s).orElse fun _ => after? "hydrateRoot" s).bind openParen?

/-- The start of a line that mounts a component, up to the parenthesis. -/
def mountCall? (s : Text) : Option Text :=
  let s := skipInline s
  (((reactDom? s).bind (after? "render")).bind openParen?).orElse fun _ => rootCall? s

/-- The start of a line that binds a root to a name: the name and the text from the parenthesis
on. -/
def rootBinding? (s : Text) : Option (Text × Text) := do
  let s := skipInline s
  let s ← (wordAndBlanks? "const" s).orElse fun _ =>
    (wordAndBlanks? "let" s).orElse fun _ => wordAndBlanks? "var" s
  match s with
  | [] => none
  | c :: s =>
    if c.isIdentifierStart then
      let rest ← after? "=" (skipBlanks (s.dropWhile isIdentifierPart))
      some (c :: s.takeWhile isIdentifierPart, ← rootCall? (skipBlanks rest))
    else none

/-- The start of a line that renders into the root with the given name. -/
def rootRender? (name s : Text) : Option Text := do
  let s ← after? "." (skipBlanks (← after? name (skipInline s)))
  openParen? (← after? "render" (skipBlanks s))

/-- Removes each statement whose start `call` recognises, giving the text from its first parenthesis
on. Where the parentheses do not balance or more follows on the line, the text stays and scanning
goes on behind the parenthesis. -/
def removeCalls (call : Text → Option Text) : Text → Text :=
  editLines fun s => (call s).map fun opened =>
    match callStatement? opened with
    | some rest => .remove rest
    | none => .pass s opened.tail

/-- The names that the source binds to roots. -/
def rootNames (source : Text) : List Text :=
  distinct (findFrom (fun s => (rootBinding? s).map fun (name, opened) => (name, opened.tail))
    true source)

/-- Removes root bindings, mount statements and then what renders into the bound roots. -/
def stripMountCalls (source : Text) : Text :=
  (rootNames source).foldl (fun s name => removeCalls (rootRender? name) s)
    (removeCalls mountCall? (removeCalls (fun s => (rootBinding? s).map Prod.snd) source))

end SitePreview.Source
