import SitePreview.Text.Blank
import SitePreview.Text.Percent
import SitePreview.Text.Word

/-! Tokens of the arguments that a handler is given in console markup: names, numbers, quoted texts
and marks. Inside brackets the ends of lines do not count. -/

namespace SitePreview.Console

open Text

/-- What is wrong with the form of arguments. -/
inductive SyntaxFault
  | invalid
  | neverClosed (bracket : CodePoint)
  | unmatched (bracket : CodePoint)
  | mismatch (closing opening : CodePoint) (line : Option Nat)
  | unterminated (line : Nat) (isLong : Bool)
  | badLiteral (kind : Text)
  | badDigit (digit : CodePoint) (kind : Text)
  | leadingZeros
  | continuation
  | badCharacter (c : CodePoint)
  | mixedQuotes
  | missingComma
  | missingElse
  | missingCall (name : Text)
  | assignment
  | assignmentTo (what : Text)
  | starred
  | doubleStarred
  | valueExpected
  | colonExpected
deriving DecidableEq

namespace SyntaxFault

def message : SyntaxFault → Text
  | invalid => "invalid syntax"
  | neverClosed bracket => ("'" : Text) ++ [bracket] ++ "' was never closed"
  | unmatched bracket => ("unmatched '" : Text) ++ [bracket] ++ "'"
  | mismatch closing opening line =>
    let place : Text := match line with
      | some n => " on line " ++ ofNat n
      | none => []
    ("closing parenthesis '" : Text) ++ [closing] ++ "' does not match opening parenthesis '" ++
      [opening] ++ "'" ++ place
  | unterminated line isLong =>
    let kind : Text := if isLong then "triple-quoted string" else "string"
    "unterminated " ++ kind ++ " literal (detected at line " ++ ofNat line ++ ")"
  | badLiteral kind => "invalid " ++ kind ++ " literal"
  | badDigit digit kind => ("invalid digit '" : Text) ++ [digit] ++ "' in " ++ kind ++ " literal"
  | leadingZeros =>
    "leading zeros in decimal integer literals are not permitted; " ++
      "use an 0o prefix for octal integers"
  | continuation => "unexpected character after line continuation character"
  | badCharacter c =>
    let number : Text := "U+" ++ (hex 4 c.val).map CodePoint.toAsciiUpper
    if c.isPrintable then ("invalid character '" : Text) ++ [c] ++ "' (" ++ number ++ ")"
    else "invalid non-printable character " ++ number
  | mixedQuotes => "cannot mix bytes and nonbytes literals"
  | missingComma => "invalid syntax. Perhaps you forgot a comma?"
  | missingElse => "expected 'else' after 'if' expression"
  | missingCall name =>
    "Missing parentheses in call to '" ++ name ++ "'. Did you mean " ++ name ++ "(...)?"
  | assignment => "invalid syntax. Maybe you meant '==' or ':=' instead of '='?"
  | assignmentTo what =>
    "cannot assign to " ++ what ++ " here. Maybe you meant '==' instead of '='?"
  | starred => "cannot use starred expression here"
  | doubleStarred => "cannot use double starred expression here"
  | valueExpected => "expression expected after dictionary key and ':'"
  | colonExpected => "':' expected after dictionary key"

end SyntaxFault

/-- What a quoted text is: a text, bytes, or a format with expressions in it. -/
inductive Quoted
  | text
  | bytes
  | format
deriving DecidableEq

inductive Token
  | name (t : Text)
  | number (isImaginary : Bool)
  | quoted (kind : Quoted)
  | mark (t : Text)
  | lineEnd
deriving DecidableEq

namespace Token

/-- The code point may stand in a name. All above ASCII are taken as a part of one at first. -/
def isNamePart (c : CodePoint) : Bool :=
  c.isAsciiLetter || c.isAsciiDigit || c = '_' || 0x80 ≤ c.val

/-- A word may follow a number directly: any that starts like one of the first, and the others as a
whole. -/
def isWordBehindNumber (s : Text) : Bool :=
  let starts : List Text := ["if", "in", "is"]
  let words : List Text := ["and", "else", "for", "or", "not"]
  starts.any (fun w => s.startsWith w) || words.contains (s.takeWhile isNamePart)

/-- The number ends here. -/
def endNumber (kind : Text) (isImaginary : Bool) (s : Text) :
    Except SyntaxFault (Bool × Text) :=
  let isStray (c : CodePoint) : Bool := isNamePart c && c.val < 0x80
  if s.head?.any isStray && !isWordBehindNumber s then .error (.badLiteral kind)
  else .ok (isImaginary, s)

/-- What follows digits with single underscores between them. -/
def skipDigits (isDigit : CodePoint → Bool) (kind : Text) (s : Text) : Except SyntaxFault Text :=
  match s with
  | [] => .ok []
  | c :: s =>
    if isDigit c then skipDigits isDigit kind s
    else if c = '_' then
      match s with
      | [] => .error (.badLiteral kind)
      | d :: s => if isDigit d then skipDigits isDigit kind s else .error (.badLiteral kind)
    else .ok (c :: s)

/-- A number behind the mark of its base. -/
def basedNumber (kind : Text) (isDigit : CodePoint → Bool) (s : Text) :
    Except SyntaxFault (Bool × Text) := do
  let digits := dropPrefix "_" s
  let wrongDigit (s : Text) : Except SyntaxFault Unit :=
    match s with
    | c :: _ => if c.isAsciiDigit && !isDigit c then .error (.badDigit c kind) else .ok ()
    | [] => .ok ()
  wrongDigit digits
  if !digits.head?.any isDigit then throw (.badLiteral kind)
  let rest ← skipDigits isDigit kind digits
  wrongDigit rest
  endNumber kind false rest

/-- An exponent and what follows it. -/
def skipExponent (s : Text) : Except SyntaxFault Text :=
  match s with
  | [] => .ok []
  | e :: rest =>
    if e = 'e' ∨ e = 'E' then
      let isSigned := rest.head? = some '+' || rest.head? = some '-'
      let digits := if isSigned then rest.tail else rest
      if digits.head?.any CodePoint.isAsciiDigit then
        skipDigits CodePoint.isAsciiDigit "decimal" digits
      else if !isSigned && s.startsWith "else" then .ok s
      else .error (.badLiteral "decimal")
    else .ok s

/-- Whether a number is imaginary, and what follows it. -/
def readNumber (s : Text) : Except SyntaxFault (Bool × Text) := do
  let isHex (c : CodePoint) : Bool := (hexDigitValue? c).isSome
  let isOctal (c : CodePoint) : Bool := c.isAsciiDigit && c.val < 56
  let isBinary (c : CodePoint) : Bool := c = '0' || c = '1'
  let based : Option (Except SyntaxFault (Bool × Text)) :=
    match s with
    | z :: b :: rest =>
      if z ≠ '0' then none
      else if b = 'x' ∨ b = 'X' then some (basedNumber "hexadecimal" isHex rest)
      else if b = 'o' ∨ b = 'O' then some (basedNumber "octal" isOctal rest)
      else if b = 'b' ∨ b = 'B' then some (basedNumber "binary" isBinary rest)
      else none
    | _ => none
  match based with
  | some result => result
  | none =>
    let isDecimal : CodePoint → Bool := CodePoint.isAsciiDigit
    let whole ← skipDigits isDecimal "decimal" s
    let fraction ← match after? "." whole with
      | none => pure whole
      | some t => if t.head?.any isDecimal then skipDigits isDecimal "decimal" t else pure t
    let rest ← skipExponent fraction
    let isWhole := rest.length = whole.length
    let digits : Text := (s.take (s.length - whole.length)).filter isDecimal
    let isImaginary := rest.head? = some 'j' || rest.head? = some 'J'
    if isImaginary then endNumber "imaginary" true rest.tail
    else if isWhole && digits.head? = some '0' && digits.any (fun c => c ≠ '0') then
      throw .leadingZeros
    else endNumber "decimal" false rest

/-- What follows the closing mark of a text within a line. -/
def skipShort? (mark : CodePoint) : Text → Option Text
  | [] => none
  | c :: s =>
    if c = mark then some s
    else if c = '\n' then none
    else if c = '\\' then
      match s with
      | [] => none
      | _ :: s => skipShort? mark s
    else skipShort? mark s

/-- What follows the three closing marks of a text over several lines. -/
def skipLong? (marks : Text) : Text → Option Text
  | [] => none
  | c :: s =>
    match after? marks (c :: s) with
    | some rest => some rest
    | none =>
      if c = '\\' then
        match s with
        | [] => none
        | _ :: s => skipLong? marks s
      else skipLong? marks s

def lineEnds (t : Text) : Nat := (t.filter fun c : CodePoint => c = '\n').length

/-- What follows a text that starts with its opening mark on a line. -/
def skipQuoted (line : Nat) (s : Text) : Except SyntaxFault Text :=
  match s with
  | [] => .error .invalid
  | quote :: rest =>
    let marks : Text := [quote, quote, quote]
    match after? marks s with
    | some body =>
      match skipLong? marks body with
      | some after => .ok after
      | none => .error (.unterminated (line + lineEnds body) true)
    | none =>
      match skipShort? quote rest with
      | some after => .ok after
      | none => .error (.unterminated line false)

/-- The letters in front of a quoted text, in small letters, and what they make of it. -/
def quotedPrefixes : List (Text × Quoted) :=
  [([], .text), ("b", .bytes), ("u", .text), ("r", .text), ("br", .bytes), ("rb", .bytes),
    ("f", .format), ("fr", .format), ("rf", .format)]

/-- The marks of several code points, the longer ones first. -/
def longMarks : List Text :=
  ["...", "**=", "//=", ">>=", "<<=", "==", "!=", "<=", ">=", "<<", ">>", "**", "//", "->", "+=",
    "-=", "*=", "/=", "%=", "&=", "|=", "^=", "@=", ":=", "<>"]

/-- The opening bracket for a closing one. -/
def openingOf (c : CodePoint) : CodePoint := if c = ')' then '(' else '\x7b'

/-- The first code point that may not stand in a name. -/
def strayCharacter? (name : Text) : Option CodePoint := name.find? fun c => !c.isWord

/-- A token that is neither a bracket nor the end of a line, and what follows it. -/
def plain (line : Nat) (c : CodePoint) (s : Text) : Except SyntaxFault (Token × Text) := do
  let text : Text := c :: s
  let startsFraction := c = '.' && s.head?.any CodePoint.isAsciiDigit
  let isMark (c : CodePoint) : Bool := c = '\'' || c = '"'
  if c.isAsciiDigit || startsFraction then
    let (isImaginary, rest) ← readNumber text
    return (.number isImaginary, rest)
  let word : Text := text.takeWhile isNamePart
  let rest : Text := text.drop word.length
  match if rest.head?.any isMark then quotedPrefixes.lookup word.toLower else none with
  | some kind => return (.quoted kind, ← skipQuoted line rest)
  | none =>
    if word ≠ [] then
      match strayCharacter? word with
      | some c => throw (.badCharacter c)
      | none => return (.name word, rest)
    match longMarks.find? fun m => text.startsWith m with
    | some m => return (.mark m, text.drop m.length)
    | none => if c.isPrintable then return (.mark [c], s) else throw (.badCharacter c)

/-- The tokens of a text from a line on, and what is wrong with its end. `opened` are the brackets
that are open with their lines, the last one first. -/
def read (line : Nat) (opened : List (CodePoint × Nat)) (s : Text) :
    Except SyntaxFault (List Token × Option SyntaxFault) :=
  match s with
  | [] => .ok ([], opened.head?.map fun b => .neverClosed b.1)
  | c :: s =>
    let add (t : Token) (r : Except SyntaxFault (List Token × Option SyntaxFault)) :
        Except SyntaxFault (List Token × Option SyntaxFault) :=
      r.map fun (ts, fault) => (t :: ts, fault)
    if c = '\n' then
      let after := read (line + 1) opened s
      if opened.isEmpty then add .lineEnd after else after
    else if c = ' ' ∨ c = '\t' ∨ c = '\x0c' then read line opened s
    else if c = '#' then
      let isComment (c : CodePoint) : Bool := c ≠ '\n'
      let rest : Text := s.dropWhile isComment
      if rest.length < s.length + 1 then read line opened rest else .error .invalid
    else if c = '\\' then
      match s with
      | [] => .ok ([], some .continuation)
      | d :: s =>
        if d = '\n' then read (line + 1) opened s else .ok ([], some .continuation)
    else if c = '(' ∨ c = '\x7b' then add (.mark [c]) (read line ((c, line) :: opened) s)
    else if c = ')' ∨ c = '\x7d' then
      match opened with
      | [] => .error (.unmatched c)
      | (b, start) :: opened =>
        if b = openingOf c then add (.mark [c]) (read line opened s)
        else .error (.mismatch c b (if start = line then none else some start))
    else
      match plain line c s with
      | .error e => .error e
      | .ok (t, rest) =>
        if rest.length < s.length + 1 then
          add t (read (line + lineEnds (s.take (s.length - rest.length))) opened rest)
        else .error .invalid
termination_by s.length
decreasing_by all_goals simp only [List.length_cons]; omega

end Token

end SitePreview.Console
