import SitePreview.Console.Token

/-! Arguments of handlers in console markup: literals, which are numbers, quoted texts, a few words
and collections of literals. Any other expression has the right form as well but cannot be
evaluated. -/

namespace SitePreview.Console

open Text

/-- Why arguments are refused: their form is wrong, they are no literals, or a collection cannot be
made of them. -/
inductive ArgumentFault
  | form (fault : SyntaxFault)
  | notLiteral
  | unhashable (kind : Text)
deriving DecidableEq

namespace ArgumentFault

def message : ArgumentFault → Text
  | form fault => fault.message
  | notLiteral => "malformed node or string on line 1"
  | unhashable kind => "unhashable type: '" ++ kind ++ "'"

end ArgumentFault

namespace Arguments

/-- What an expression amounts to. -/
inductive Value
  | number (isSigned isImaginary : Bool)
  | literal
  | other

/-- An expression that was read: its value, what it is called, the kind of collection in it that may
not be a key, and the kind of one that is a key nevertheless. -/
structure Reading where
  value : Value
  kind : Text
  unhashable : Option Text := none
  fault : Option Text := none

def Reading.other (kind : Text) : Reading := { value := .other, kind := kind }

def Reading.isLiteral (r : Reading) : Bool :=
  match r.value with
  | .other => false
  | _ => true

/-- A collection of items. -/
def Reading.collection (kind : Text) (items : List Reading) : Reading where
  value := if items.all Reading.isLiteral then .literal else .other
  kind := kind
  unhashable := items.findSome? Reading.unhashable
  fault := items.findSome? Reading.fault

/-- A collection of a kind that may not be a key, with keys and other items. -/
def Reading.keyed (type kind : Text) (keys others : List Reading) : Reading :=
  { Reading.collection kind (keys ++ others) with
    unhashable := some type
    fault := ((keys ++ others).findSome? Reading.fault).orElse fun _ =>
      keys.findSome? Reading.unhashable }

/-- Why reading stops: no token may stand here, or there is something to tell. -/
inductive Failure
  | stuck (rest : List Token)
  | told (fault : SyntaxFault)

/-- A reader of tokens. -/
abbrev Reader := StateT (List Token) (Except Failure)

namespace Reader

/-- Fails at the next token. -/
def stuck {α : Type} : Reader α := fun ts => .error (.stuck ts)

def tell {α : Type} (fault : SyntaxFault) : Reader α := fun _ => .error (.told fault)

def take (t : Token) : Reader Bool := fun ts =>
  match ts with
  | u :: rest => .ok (if u = t then (true, rest) else (false, u :: rest))
  | [] => .ok (false, [])

def takeMark (m : Text) : Reader Bool := take (.mark m)

def takeWord (w : Text) : Reader Bool := take (.name w)

/-- The token has to be the next one. -/
def expect (t : Token) : Reader Unit := do
  if !(← take t) then stuck

def expectMark (m : Text) : Reader Unit := expect (.mark m)

def isMark (m : Text) : Reader Bool := return (← get).head? = some (.mark m)

/-- What reading from here on would give. -/
def foresee {α : Type} (r : Reader α) : Reader (Except Failure (α × List Token)) := fun ts =>
  .ok (r ts, ts)

end Reader

open Reader

/-- The words that are no names. -/
def keywords : List Text :=
  let rows : List Text := [
    "False None True and as assert async await break class continue def del elif else except",
    "finally for from global if import in is lambda nonlocal not or pass raise return try while",
    "with yield"]
  rows.flatMap (Text.splitOn ' ')

def literalWords : List Text := ["False", "None", "True"]

def binaryMarks : List Text :=
  ["+", "-", "*", "/", "//", "%", "@", "<<", ">>", "&", "|", "^", "<", ">", "==", "!=", "<=", ">="]

/-- Takes an operator between two operands; words count as comparisons. -/
def takeBinary : Reader (Option Text) := fun ts =>
  match ts with
  | .mark m :: rest => .ok (if binaryMarks.contains m then (some m, rest) else (none, ts))
  | .name a :: .name b :: rest =>
    if (a = "not" && b = "in") || (a = "is" && b = "not") then .ok (some "in", rest)
    else if a = "in" || a = "is" then .ok (some a, .name b :: rest)
    else .ok (none, ts)
  | .name a :: rest => .ok (if a = "in" || a = "is" then (some a, rest) else (none, ts))
  | _ => .ok (none, ts)

/-- Operands with operators between them: a real number with an imaginary one added or taken away is
a number, and all else cannot be evaluated. -/
def combine (first : Reading) : List (Text × Reading) → Reading
  | [] => first
  | [(m, second)] =>
    match first.value, second.value with
    | .number _ false, .number false true =>
      if m = "+" || m = "-" then { value := .literal, kind := "expression" }
      else .other "expression"
    | _, _ => .other "expression"
  | _ => .other "expression"

/-- The words that have a meaning in some places only, or a name in front of a quoted text: no comma
is missing behind these. -/
def isSoftStart : List Token → Bool
  | .name _ :: .quoted _ :: _ => true
  | .name w :: _ => w = "match" || w = "case" || w = "_"
  | _ => false

/-- The number of tokens that the parameters of an anonymous function start with and that need no
reading of their own. -/
def isParameterToken : Token → Bool
  | .name w => !keywords.contains w
  | .mark m => m = "," || m = "*" || m = "**" || m = "/"
  | _ => false

mutual

/-- An expression; `inside` tells whether it is inside brackets. The fuel bounds the number of
steps. -/
def expression (fuel : Nat) (inside : Bool) : Reader Reading :=
  match fuel with
  | 0 => stuck
  | fuel + 1 => do
    if ← takeWord "lambda" then return ← function fuel inside
    let start ← get
    let r ← disjunction fuel inside
    if ← takeWord "if" then
      let _ ← disjunction fuel inside
      if ← takeWord "else" then
        let _ ← expression fuel inside
        return .other "conditional expression"
      if ← isMark ":" then stuck else tell .missingElse
    match start with
    | .name w :: _ =>
      if w = "print" || w = "exec" then
        if let .ok _ ← foresee (expression fuel false) then tell (.missingCall w)
    | _ => pure ()
    if !isSoftStart start && (← get) ≠ [] then
      match ← foresee (expression fuel inside) with
      | .error (.stuck []) => fun _ => .error (.stuck [])
      | .ok (_, []) => if inside then fun _ => .error (.stuck [])
      | .ok _ | .error (.told .missingComma) => if inside then tell .missingComma
      | .error _ => pure ()
    return r

/-- The rest of an anonymous function. -/
def function (fuel : Nat) (inside : Bool) : Reader Reading :=
  match fuel with
  | 0 => stuck
  | fuel + 1 => do
    modify fun ts => ts.dropWhile isParameterToken
    if ← takeMark "=" then
      let _ ← expression fuel inside
      if ← isMark ":" then function fuel inside else
        expectMark ","
        function fuel inside
    else
      expectMark ":"
      let _ ← expression fuel inside
      return .other "lambda"

/-- Operands with `and` or `or` between them. -/
def disjunction (fuel : Nat) (inside : Bool) : Reader Reading :=
  match fuel with
  | 0 => stuck
  | fuel + 1 => do
    let r ← inversion fuel inside
    if (← takeWord "and") || (← takeWord "or") then
      let _ ← disjunction fuel inside
      return .other "expression"
    return r

/-- An operand with `not` in front of it, or without. -/
def inversion (fuel : Nat) (inside : Bool) : Reader Reading :=
  match fuel with
  | 0 => stuck
  | fuel + 1 => do
    if ← takeWord "not" then
      let _ ← inversion fuel inside
      return .other "expression"
    let first ← signed fuel inside
    return combine first (← operands fuel inside)

/-- Operators, each with the operand behind it. -/
def operands (fuel : Nat) (inside : Bool) : Reader (List (Text × Reading)) :=
  match fuel with
  | 0 => stuck
  | fuel + 1 => do
    match ← takeBinary with
    | none => return []
    | some m =>
      let r ← signed fuel inside
      return (m, r) :: (← operands fuel inside)

/-- An operand with signs in front of it, or a power. -/
def signed (fuel : Nat) (inside : Bool) : Reader Reading :=
  match fuel with
  | 0 => stuck
  | fuel + 1 => do
    if (← takeMark "+") || (← takeMark "-") then
      let r ← signed fuel inside
      match r.value with
      | .number false isImaginary =>
        return { value := .number true isImaginary, kind := "expression" }
      | _ => return .other "expression"
    if ← takeMark "~" then
      let _ ← signed fuel inside
      return .other "expression"
    let _ ← takeWord "await"
    let r ← attributes fuel inside (← atom fuel)
    if ← takeMark "**" then
      let _ ← signed fuel inside
      return .other "expression"
    return r

/-- Attributes and calls behind an operand. -/
def attributes (fuel : Nat) (inside : Bool) (r : Reading) : Reader Reading :=
  match fuel with
  | 0 => stuck
  | fuel + 1 => do
    if ← takeMark "." then
      match (← get) with
      | .name w :: rest =>
        if keywords.contains w then stuck
        else
          set rest
          attributes fuel inside (.other "attribute")
      | _ => stuck
    else if ← takeMark "(" then
      if ← takeMark ")" then
        let isSet := r.kind = "set"
        attributes fuel inside
          (if isSet then .keyed "set" "function call" [] [] else .other "function call")
      else
        callArguments fuel
        attributes fuel inside (.other "function call")
    else return r

/-- The arguments of a call up to its closing bracket. -/
def callArguments (fuel : Nat) : Reader Unit :=
  match fuel with
  | 0 => stuck
  | fuel + 1 => do
    if (← takeMark "*") || (← takeMark "**") then
      let _ ← expression fuel true
    else
      match (← get) with
      | .name w :: .mark m :: rest =>
        if m = "=" && !keywords.contains w then set rest
      | _ => pure ()
      let _ ← named fuel
      if (← get).head? = some (.name "for") then comprehension fuel
    if ← takeMark "," then
      if ← takeMark ")" then return
      callArguments fuel
    else expectMark ")"

/-- An expression to which a name may be given. -/
def named (fuel : Nat) : Reader Reading :=
  match fuel with
  | 0 => stuck
  | fuel + 1 => do
    let start ← get
    match start with
    | .name w :: .mark m :: rest =>
      if !keywords.contains w then
        if m = ":=" then
          set rest
          let _ ← expression fuel true
          return .other "named expression"
        if m = "=" then
          match (do
              let _ ← inversion fuel true
              return (← isMark "=") || (← isMark ":=") : Reader Bool) rest with
          | .ok (_, []) => fun _ => .error (.stuck [])
          | .ok (false, _) => tell .assignment
          | _ => pure ()
    | _ => pure ()
    let r ← expression fuel true
    if ← isMark "=" then
      let isTarget := r.kind ≠ "tuple" && r.kind ≠ "generator" && !literalWords.contains r.kind
      match (do
          let _ ← takeMark "="
          let _ ← inversion fuel true
          return (← isMark "=") || (← isMark ":=") : Reader Bool) (← get) with
      | .ok (_, []) => fun _ => .error (.stuck [])
      | .ok (false, _) => if isTarget then tell (.assignmentTo r.kind)
      | _ => pure ()
    return r

/-- An item of a collection, and whether it is starred. -/
def item (fuel : Nat) : Reader (Reading × Bool) :=
  match fuel with
  | 0 => stuck
  | fuel + 1 => do
    if ← takeMark "*" then
      let _ ← inversion fuel true
      return (.other "starred", true)
    return (← named fuel, false)

/-- The items behind a comma up to the closing mark. -/
def items (fuel : Nat) (close : Text) : Reader (List Reading) :=
  match fuel with
  | 0 => stuck
  | fuel + 1 => do
    if ← takeMark close then return []
    let (r, _) ← item fuel
    if ← takeMark "," then return r :: (← items fuel close)
    expectMark close
    return [r]

/-- What runs over collections behind an expression. -/
def comprehension (fuel : Nat) : Reader Unit :=
  match fuel with
  | 0 => stuck
  | fuel + 1 => do
    let _ ← takeWord "async"
    expect (.name "for")
    targets fuel
    expect (.name "in")
    let _ ← disjunction fuel true
    conditions fuel
    match (← get).head? with
    | some (.name w) => if w = "for" || w = "async" then comprehension fuel
    | _ => pure ()

/-- The conditions of what runs over a collection. -/
def conditions (fuel : Nat) : Reader Unit :=
  match fuel with
  | 0 => stuck
  | fuel + 1 => do
    if ← takeWord "if" then
      let _ ← disjunction fuel true
      conditions fuel

/-- The targets of what runs over a collection. -/
def targets (fuel : Nat) : Reader Unit :=
  match fuel with
  | 0 => stuck
  | fuel + 1 => do
    let _ ← takeMark "*"
    let _ ← attributes fuel true (← atom fuel)
    if ← takeMark "," then
      if (← get).head? = some (.name "in") then return
      targets fuel

/-- A single thing, or what is in brackets. -/
def atom (fuel : Nat) : Reader Reading :=
  match fuel with
  | 0 => stuck
  | fuel + 1 => do
    match (← get) with
    | .name w :: rest =>
      if literalWords.contains w then
        set rest
        return { value := .literal, kind := w }
      if keywords.contains w then stuck
      set rest
      return .other (if w = "set" then w else "name")
    | .number isImaginary :: rest =>
      set rest
      return { value := .number false isImaginary, kind := "literal" }
    | .quoted kind :: rest =>
      let isQuoted : Token → Bool
        | .quoted _ => true
        | _ => false
      set (rest.dropWhile isQuoted)
      let parts : List Token := .quoted kind :: rest.takeWhile isQuoted
      if parts.contains (.quoted .bytes) && parts.any fun t => t ≠ .quoted .bytes then
        tell .mixedQuotes
      if parts.contains (.quoted .format) then return .other "f-string expression"
      return { value := .literal, kind := "literal" }
    | .mark m :: rest =>
      if m = "..." then
        set rest
        return { value := .literal, kind := "ellipsis" }
      else if m = "(" then
        set rest
        group fuel
      else if m = "\x7b" then
        set rest
        braces fuel
      else stuck
    | _ => stuck

/-- What is behind an opening parenthesis: a group, a tuple or a generator. -/
def group (fuel : Nat) : Reader Reading :=
  match fuel with
  | 0 => stuck
  | fuel + 1 => do
    if ← takeMark ")" then return .collection "tuple" []
    if ← takeWord "yield" then
      let _ ← takeWord "from"
      if ← takeMark ")" then return .other "yield expression"
      let _ ← items fuel ")"
      return .other "yield expression"
    if ← takeMark "**" then
      match ← foresee (expression fuel true) with
      | .ok _ => tell .doubleStarred
      | .error _ => let _ ← expression fuel true
    let (r, isStarred) ← item fuel
    match (← get).head? with
    | some (.name w) =>
      if w = "for" || w = "async" then
        comprehension fuel
        expectMark ")"
        return .other "generator"
    | _ => pure ()
    if ← takeMark "," then return .collection "tuple" (r :: (← items fuel ")"))
    expectMark ")"
    if isStarred then tell .starred else return r

/-- What is behind an opening brace: keys with values, or items. -/
def braces (fuel : Nat) : Reader Reading :=
  match fuel with
  | 0 => stuck
  | fuel + 1 => do
    if ← takeMark "\x7d" then return .keyed "dict" "dict literal" [] []
    if ← isMark "**" then return ← members fuel [] []
    let (r, _) ← item fuel
    if ← isMark ":" then return ← membersFrom fuel r [] []
    match (← get).head? with
    | some (.name w) =>
      if w = "for" || w = "async" then
        comprehension fuel
        expectMark "\x7d"
        return .other "set comprehension"
    | _ => pure ()
    if ← takeMark "," then return .keyed "set" "set display" (r :: (← items fuel "\x7d")) []
    expectMark "\x7d"
    return .keyed "set" "set display" [r] []

/-- Keys with their values up to the closing brace. -/
def members (fuel : Nat) (keys values : List Reading) : Reader Reading :=
  match fuel with
  | 0 => stuck
  | fuel + 1 => do
    if ← takeMark "\x7d" then return .keyed "dict" "dict literal" keys values
    if ← takeMark "**" then
      let _ ← inversion fuel true
      let other : Reading := .other "dict literal"
      if ← takeMark "," then members fuel keys (other :: values)
      else
        expectMark "\x7d"
        return .keyed "dict" "dict literal" keys (other :: values)
    else membersFrom fuel (← expression fuel true) keys values

/-- The value behind a key, and further members. -/
def membersFrom (fuel : Nat) (key : Reading) (keys values : List Reading) : Reader Reading :=
  match fuel with
  | 0 => stuck
  | fuel + 1 => do
    if !(← takeMark ":") then
      if keys ≠ [] && ((← isMark "\x7d") || (← isMark ",")) then tell .colonExpected
      stuck
    if (← isMark "\x7d") || (← isMark ",") then tell .valueExpected
    let value ← expression fuel true
    let keys := keys ++ [key]
    let values := values ++ [value]
    match (← get).head? with
    | some (.name w) =>
      if w = "for" || w = "async" then
        comprehension fuel
        expectMark "\x7d"
        return .other "dict comprehension"
    | _ => pure ()
    if ← takeMark "," then members fuel keys values
    else
      expectMark "\x7d"
      return .keyed "dict" "dict literal" keys values

end

/-- Expressions with commas between them, and nothing behind them but line ends. -/
def all (fuel : Nat) (found : List Reading) : Reader Reading :=
  match fuel with
  | 0 => stuck
  | fuel + 1 => do
    let r ← expression fuel false
    let found := found ++ [r]
    if ← takeMark "," then
      match (← get) with
      | [] | .lineEnd :: _ => finish (.collection "tuple" found)
      | _ => all fuel found
    else finish (if found.length = 1 then r else .collection "tuple" found)
where
  finish (r : Reading) : Reader Reading := do
    let rest := (← get).dropWhile fun t => t = .lineEnd
    if rest ≠ [] then stuck else return r

/-- Each token leads through a bounded number of steps. -/
def stepsPerToken : Nat := 24

end Arguments

/-- Checks that a text consists of literals. -/
def checkArguments (s : Text) : Except ArgumentFault Unit :=
  match Token.read 1 [] s with
  | .error fault => .error (.form fault)
  | .ok (tokens, atEnd) =>
    match (Arguments.all (Arguments.stepsPerToken * (tokens.length + 2)) []).run tokens with
    | .error (.told fault) => .error (.form fault)
    | .error (.stuck []) => .error (.form (atEnd.getD .invalid))
    | .error (.stuck _) => .error (.form .invalid)
    | .ok (r, _) =>
      match atEnd, r.fault with
      | some fault, _ => .error (.form fault)
      | none, some kind => .error (if r.isLiteral then .unhashable kind else .notLiteral)
      | none, none => if r.isLiteral then .ok () else .error .notLiteral

end SitePreview.Console
