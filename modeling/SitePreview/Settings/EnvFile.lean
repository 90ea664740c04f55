import SitePreview.Text.Blank

/-! Environment files: lines of names and values, bare or in quotes, with comments. A line that
cannot be read is skipped. Values may refer to other variables as `$\x7bNAME\x7d`, with a default
behind `:-`. -/

namespace SitePreview.Settings.EnvFile

open Text CodePoint

def isLineEnd (c : CodePoint) : Bool := c = '\r' || c = '\n'

/-- White space that does not end a line. -/
def isGap (c : CodePoint) : Bool := c.isBlank && !isLineEnd c

def skipGaps (s : Text) : Text := s.dropWhile isGap

/-- What follows the end of a line, if it stands here. -/
def lineEnd? (s : Text) : Option Text :=
  match skipGaps s with
  | [] => some []
  | c :: s =>
    if c = '\r' then some (dropPrefix "\n" s) else if c = '\n' then some s else none

/-- What follows the rest of the line, without or with one code point of its end. -/
def skipLine (s : Text) : Text := (s.dropWhile fun c => !isLineEnd c).drop 1

/-- The text without a comment in front. -/
def skipComment (s : Text) : Text :=
  if (skipGaps s).head? = some '#' then s.dropWhile fun c => !isLineEnd c else s

/-- The raw text up to the closing mark. A backslash covers a mark behind it, unless no closing mark
follows. -/
def rawQuoted? (mark : CodePoint) : Text → Option (Text × Text)
  | [] => none
  | [c] => if c = mark then some ([], []) else none
  | c :: d :: s =>
    if c = mark then some ([], d :: s)
    else if c = '\\' ∧ d = mark then
      match rawQuoted? mark s with
      | some (t, after) => some (c :: d :: t, after)
      | none => some ([c], s)
    else (rawQuoted? mark (d :: s)).map fun (t, after) => (c :: t, after)

/-- The code point of a one-letter escape between double quotes. -/
def escapeOf? (c : CodePoint) : Option CodePoint :=
  if c = '\\' ∨ c = '\'' ∨ c = '"' then some c
  else if c = 'a' then some '\x07'
  else if c = 'b' then some '\x08'
  else if c = 'f' then some '\x0c'
  else if c = 'n' then some '\n'
  else if c = 'r' then some '\r'
  else if c = 't' then some '\t'
  else if c = 'v' then some '\x0b'
  else none

/-- The text with its escapes resolved by `escape`; other backslashes stay. -/
def unescape (escape : CodePoint → Option CodePoint) : Text → Text
  | [] => []
  | [c] => [c]
  | c :: d :: s =>
    match if c = '\\' then escape d else none with
    | some e => e :: unescape escape s
    | none => c :: unescape escape (d :: s)

/-- A bare value up to a comment behind white space. -/
def bareValue : Text → Text
  | [] => []
  | c :: s => if c.isBlank && (skipBlanks s).head? = some '#' then [] else c :: bareValue s

/-- The value behind the sign of equality, and what follows it. -/
def value? (s : Text) : Option (Text × Text) :=
  match s with
  | [] => some ([], [])
  | c :: rest =>
    if c = '\'' then
      (rawQuoted? c rest).map fun (t, after) =>
        (unescape (fun d => if d = '\\' ∨ d = '\'' then some d else none) t, after)
    else if c = '"' then
      (rawQuoted? c rest).map fun (t, after) => (unescape escapeOf? t, after)
    else
      some (dropRightWhile isBlank (bareValue (s.takeWhile fun c => !isLineEnd c)),
        s.dropWhile fun c => !isLineEnd c)

/-- The name of a variable, bare or in single quotes, and what follows it. A comment has none. -/
def name? (s : Text) : Option (Option Text × Text) :=
  match s with
  | [] => none
  | c :: rest =>
    if c = '#' then some (none, s)
    else if c = '\'' then
      let isNamePart (c : CodePoint) : Bool := c ≠ '\''
      match rest.takeWhile isNamePart, rest.dropWhile isNamePart with
      | [], _ => none
      | _, [] => none
      | name, _ :: after => some (some name, after)
    else
      let isNamePart (c : CodePoint) : Bool := c ≠ '=' && c ≠ '#' && !c.isBlank
      match s.takeWhile isNamePart with
      | [] => none
      | name => some (some name, s.dropWhile isNamePart)

/-- A name and its value. A name that stands alone on its line takes its value away. -/
abbrev Binding := Text × Option Text

/-- The word `export` with white space behind it is skipped. -/
def skipExport (s : Text) : Text :=
  match after? "export" s with
  | some (c :: rest) => if isGap c then skipGaps rest else s
  | _ => s

/-- The binding that stands here, and what follows its line. A line that cannot be read gives none
and ends where reading stopped at the next line end. A number sign behind blanks starts a comment
where a value might. -/
def binding (s : Text) : Option Binding × Text :=
  let start := skipExport s
  match name? start with
  | none => (none, skipLine start)
  | some (name, s) =>
    let s := skipGaps s
    let isValue := s.head? = some '='
    let start := skipGaps s.tail
    let isComment := start.length < s.tail.length && start.head? = some '#'
    let read : Option (Option Text × Text) :=
      if !isValue then some (none, s)
      else if isComment then some (some [], start)
      else (value? start).map fun (value, s) => (some value, s)
    match read with
    | none => (none, skipLine start)
    | some (value, s) =>
      match lineEnd? (skipComment s) with
      | none => (none, skipLine (skipComment s))
      | some rest => (name.map fun n => (n, value), rest)

def bindingsFrom (s : Text) : List Binding :=
  match skipBlanks s with
  | [] => []
  | c :: rest =>
    let (b, after) := binding (c :: rest)
    if after.length < s.length then b.toList ++ bindingsFrom after else b.toList
termination_by s.length

/-- The bindings with one more, which takes the place of an earlier one of its name. -/
def bind (name : Text) (value : Option Text) : List Binding → List Binding
  | [] => [(name, value)]
  | (n, v) :: bs => if n = name then (n, value) :: bs else (n, v) :: bind name value bs

/-- The value of the reference behind `$\x7b`, and what follows its brace. -/
def reference? (known : Text → Option Text) (s : Text) : Option (Text × Text) :=
  let isNamePart (c : CodePoint) : Bool := c ≠ '\x7d' && c ≠ ':'
  let isDefaultPart (c : CodePoint) : Bool := c ≠ '\x7d'
  let value := known (s.takeWhile isNamePart)
  match s.dropWhile isNamePart with
  | [] => none
  | c :: rest =>
    if c = '\x7d' then some (value.getD [], rest)
    else
      match after? "-" rest with
      | none => none
      | some t =>
        match t.dropWhile isDefaultPart with
        | [] => none
        | _ :: after => some (value.getD (t.takeWhile isDefaultPart), after)

/-- The value with the variables it refers to put in. -/
def expand (known : Text → Option Text) (s : Text) : Text :=
  match s with
  | [] => []
  | c :: s =>
    match (after? "$\x7b" (c :: s)).bind (reference? known) with
    | none => c :: expand known s
    | some (value, rest) =>
      if rest.length < s.length + 1 then value ++ expand known rest else c :: expand known s
termination_by s.length

/-- The text of a file as it is read: without a mark of byte order, and with a line feed for each
line end. -/
def decoded (file : Text) : Text := unifyLineEnds (dropPrefix "\uFEFF" file)

/-- The variables that an environment file sets or takes away. A value may refer to variables set
above it and to those of the environment; one that was taken away is empty. -/
def read (environment : List (Text × Text)) (file : Text) : List Binding :=
  (bindingsFrom (decoded file)).foldl (fun bs (name, value) =>
    let known (n : Text) : Option Text :=
      match bs.lookup n with
      | some value => some (value.getD [])
      | none => environment.lookup n
    bind name (value.map (expand known)) bs) []

end SitePreview.Settings.EnvFile
