import SitePreview.Decimal.Scientific
import SitePreview.Decimal.Binary
import SitePreview.Json.Literal
import SitePreview.Validation.Field

/-! Messages with places for arguments. A place starts with a percent sign and says how its argument
is written: `%s` as it is, `%r` as a literal, `%d` as an integer, `%5.2f` in five columns with two
places. Arguments are taken in order, or by name from an object. Two percent signs stand for one. -/

namespace SitePreview.Log

/-- Why arguments cannot be put into a message. -/
inductive FormatError
  | mismatch
  | missing
  | overflow (message : Text)
  | malformed (message : Text)
deriving DecidableEq

/-- How an argument is written. -/
structure Place where
  left : Bool := false
  plus : Bool := false
  blank : Bool := false
  alternate : Bool := false
  zero : Bool := false
  width : Nat := 0
  precision : Option Nat := none

/-- What arguments are left, and the value that named ones come from. With such a value arguments
may be left over. -/
structure Arguments where
  next : List Json
  named : Option Json

namespace Arguments

/-- A value as the only argument. Objects hold named ones; lists might hold some, but have none. -/
def ofValue (v : Json) : Arguments :=
  match v with
  | .object _ | .array _ => ⟨[v], some v⟩
  | v => ⟨[v], none⟩

/-- The arguments of a list. An object that is the only one, and not empty, holds named ones. -/
def ofList (vs : List Json) : Arguments :=
  match vs with
  | [.object (m :: ms)] => ofValue (.object (m :: ms))
  | vs => ⟨vs, none⟩

/-- The next argument. -/
def take (a : Arguments) : Except FormatError (Json × Arguments) :=
  match a.next with
  | [] => .error .mismatch
  | v :: vs => .ok (v, { a with next := vs })

/-- The named argument comes next. -/
def select (a : Arguments) (name : Text) : Except FormatError Arguments :=
  match a.named with
  | some (.object ms) =>
    match ms.lookup name with
    | none => .error .missing
    | some v => .ok { a with next := [v] }
  | _ => .error .mismatch

end Arguments

/-- The text in its columns, with blanks in front or behind. -/
def Place.pad (p : Place) (s : Text) : Text :=
  if p.left then Text.padRight p.width ' ' s else Text.padLeft p.width ' ' s

/-- A number in its columns: sign, mark of its base, digits. -/
def Place.number (p : Place) (negative : Bool) (base digits : Text) : Text :=
  let sign : Text := if negative then "-" else if p.plus then "+" else if p.blank then " " else ""
  let front := sign ++ base
  if p.zero && !p.left then front ++ Text.padLeft (p.width - front.length) '0' digits
  else p.pad (front ++ digits)

/-- The integer of an argument. Only a decimal place takes the whole part of other numbers. -/
def integerOf (decimal : Bool) : Json → Except FormatError Int
  | .int i => .ok i
  | .bool b => .ok (if b then 1 else 0)
  | .float x =>
    if !decimal then .error .mismatch
    else
      match Decimal.Value.ofFloat x with
      | .notANumber => .error (.malformed "cannot convert float NaN to integer")
      | .infinite _ => .error (.overflow "cannot convert float infinity to integer")
      | .finite b =>
        let (num, den) := b.scaled 0
        .ok (if b.negative then -(num / den : Nat) else (num / den : Nat))
  | _ => .error .mismatch

/-- The number of an argument: sign and fraction, or a word. An integer counts as the double next to
it. -/
def numberOf : Json → Except FormatError (Bool × (Nat × Nat ⊕ Text))
  | .int i =>
    match Decimal.quotient? i.natAbs 1 with
    | some x =>
      match Decimal.Value.ofFloat x with
      | .finite b => .ok (i < 0, .inl (b.scaled 0))
      | _ => .error .mismatch
    | none => .error (.overflow "int too large to convert to float")
  | .bool b => .ok (false, .inl (if b then 1 else 0, 1))
  | .float x =>
    match Decimal.Value.ofFloat x with
    | .notANumber => .ok (false, .inr "nan")
    | .infinite negative => .ok (negative, .inr "inf")
    | .finite b => .ok (b.negative, .inl (b.scaled 0))
  | _ => .error .mismatch

/-- ASCII small letters become capitals. -/
def capitals (s : Text) : Text := s.map CodePoint.toAsciiUpper

/-- A literal with all beyond ASCII escaped. -/
def asciiLiteral (v : Json) : Text :=
  v.literal.flatMap fun c =>
    if c.val < 0x80 then [c]
    else if c.val < 0x100 then "\\x" ++ Text.hex 2 c.val
    else if c.val < 0x10000 then "\\u" ++ Text.hex 4 c.val
    else "\\U" ++ Text.hex 8 c.val

/-- The integer in a base, with the mark of the base if the place asks for it. -/
def Place.integer (p : Place) (i : Int) (base : Nat) (mark : Text) : Text :=
  let digits : Text := (Nat.toDigits base i.natAbs).map CodePoint.ofChar
  p.number (i < 0) (if p.alternate then mark else []) (Text.padLeft (p.precision.getD 0) '0' digits)

/-- The argument as the letter at the end of its place says. The index is that of the letter. -/
def Place.text (p : Place) (letter : CodePoint) (index : Nat) (v : Json) :
    Except FormatError Text :=
  let cut (s : Text) : Text :=
    match p.precision with
    | some n => s.take n
    | none => s
  let real (write : Nat → Nat → Text) : Except FormatError Text := do
    let (negative, x) ← numberOf v
    match x with
    | .inl (num, den) => .ok (p.number negative [] (write num den))
    | .inr word => .ok (p.number negative [] word)
  let places := p.precision.getD 6
  if letter = 's' then .ok (p.pad (cut v.plain))
  else if letter = 'r' then .ok (p.pad (cut v.literal))
  else if letter = 'a' then .ok (p.pad (cut (asciiLiteral v)))
  else if letter = 'd' ∨ letter = 'i' ∨ letter = 'u' then
    (integerOf true v).map fun i => p.integer i 10 []
  else if letter = 'x' then (integerOf false v).map fun i => p.integer i 16 "0x"
  else if letter = 'X' then (integerOf false v).map fun i => capitals (p.integer i 16 "0x")
  else if letter = 'o' then (integerOf false v).map fun i => p.integer i 8 "0o"
  else if letter = 'f' then real (Decimal.fixedText places p.alternate)
  else if letter = 'F' then (real (Decimal.fixedText places p.alternate)).map capitals
  else if letter = 'e' then real (Decimal.scientificText places p.alternate)
  else if letter = 'E' then (real (Decimal.scientificText places p.alternate)).map capitals
  else if letter = 'g' then real (Decimal.generalText places p.alternate)
  else if letter = 'G' then (real (Decimal.generalText places p.alternate)).map capitals
  else if letter = 'c' then
    match v with
    | .string [c] => .ok (p.pad [c])
    | .string _ => .error .mismatch
    | v => do
      let i ← integerOf false v
      match if i < 0 then none else CodePoint.ofNat? i.toNat with
      | some c => .ok (p.pad [c])
      | none => .error (.overflow "%c arg not in range(0x110000)")
  else
    let shown : Text := if 31 < letter.val && letter.val < 127 then [letter] else "?"
    .error (.malformed ("unsupported format character '" ++ shown ++ "' (0x" ++
      Text.hex 1 letter.val ++ ") at index " ++ .ofNat index))

/-- The name between parentheses, which may hold further pairs of them, and what follows it. -/
def name? : Nat → Text → Option (Text × Text)
  | _, [] => none
  | depth, c :: s =>
    if c = ')' then
      match depth with
      | 0 => some ([], s)
      | depth + 1 => (name? depth s).map fun (t, after) => (c :: t, after)
    else if c = '(' then (name? (depth + 1) s).map fun (t, after) => (c :: t, after)
    else (name? depth s).map fun (t, after) => (c :: t, after)

/-- The flags in front of a width, and what follows them. -/
def flags (p : Place) : Text → Place × Text
  | [] => (p, [])
  | c :: s =>
    if c = '-' then flags { p with left := true } s
    else if c = '+' then flags { p with plus := true } s
    else if c = ' ' then flags { p with blank := true } s
    else if c = '#' then flags { p with alternate := true } s
    else if c = '0' then flags { p with zero := true } s
    else (p, c :: s)

/-- What may be a size: numbers below the bound. The words tell of others, in digits and as an
argument. -/
structure SizeLimit where
  bound : Nat
  tooBig : Text
  tooLarge : Text

def widthLimit : SizeLimit :=
  ⟨2 ^ 63, "width too big", "Python int too large to convert to C ssize_t"⟩

def precisionLimit : SizeLimit :=
  ⟨2 ^ 31, "precision too big", "Python int too large to convert to C int"⟩

/-- A number in digits, or a star for one that is an argument; what follows it, and the arguments
left. -/
def size (limit : SizeLimit) (s : Text) (a : Arguments) :
    Except FormatError (Int × Text × Arguments) :=
  match s with
  | c :: rest =>
    if c = '*' then do
      let (v, a) ← a.take
      match v with
      | .int i =>
        if i < -limit.bound ∨ limit.bound ≤ i then .error (.overflow limit.tooLarge)
        else .ok (i, rest, a)
      | .bool b => .ok (if b then 1 else 0, rest, a)
      | _ => .error .mismatch
    else
      let ds := s.takeWhile CodePoint.isAsciiDigit
      let n := ds.foldl (fun n c => n * 10 + (c.val - 48)) 0
      if limit.bound ≤ n then .error (.malformed limit.tooBig)
      else .ok (n, s.drop ds.length, a)
  | [] => .ok (0, [], a)

/-- The text about a place that the message ends in. -/
def endsInPlace : FormatError := .malformed "incomplete format"

/-- What stands for a place, from behind its percent sign on, what follows it and the arguments
left. `total` is the length of the whole message. -/
def place (total : Nat) (s : Text) (a : Arguments) :
    Except FormatError (Text × Text × Arguments) := do
  let (s, a) ← match Text.after? "(" s with
    | none => pure (s, a)
    | some rest =>
      if a.named.isNone then throw .mismatch
      match name? 0 rest with
      | none => throw (.malformed "incomplete format key")
      | some (name, rest) => pure (rest, ← a.select name)
  let (p, s) := flags {} s
  let (width, s, a) ← size widthLimit s a
  let p := { p with width := width.natAbs, left := p.left || width < 0 }
  let (p, s, a) ← match Text.after? "." s with
    | none => pure (p, s, a)
    | some rest => do
      let (n, rest, a) ← size precisionLimit rest a
      pure ({ p with precision := some n.toNat }, rest, a)
  let s := match s with
    | c :: rest => if c = 'h' ∨ c = 'l' ∨ c = 'L' then rest else s
    | [] => s
  match s with
  | [] => throw endsInPlace
  | letter :: rest =>
    let (v, a) ← a.take
    return (← p.text letter (total - s.length) v, rest, a)

/-- The rest of a message with the arguments put in. -/
def formatFrom (total : Nat) (s : Text) (a : Arguments) : Except FormatError Text :=
  match s with
  | [] => if a.named.isNone && !a.next.isEmpty then .error .mismatch else .ok []
  | c :: s =>
    if c = '%' ∧ s.head? = some '%' then (formatFrom total s.tail a).map (c :: ·)
    else if c = '%' then
      match place total s a with
      | .error e => .error e
      | .ok (t, rest, a) =>
        if rest.length < s.length + 1 then (formatFrom total rest a).map (t ++ ·)
        else .error endsInPlace
    else (formatFrom total s a).map (c :: ·)
termination_by s.length

def format (message : Text) (a : Arguments) : Except FormatError Text :=
  formatFrom message.length message a

end SitePreview.Log
