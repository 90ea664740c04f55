import SitePreview.Text.Basic

/-! Command line arguments. An option stands for a value of its own or takes the next argument,
which may also follow a long name and `=` or a short name directly. Short names that take no value
may stand together behind one hyphen. Behind `--` there are no more options. -/

namespace SitePreview.Command

open Text

/-- An option: the key of its value, its long name with both hyphens, its short name, and the value
that it stands for if it takes none. -/
structure Rule where
  key : Text
  long : Text
  short : Option CodePoint := none
  fixed : Option Text := none

def Rule.taking (name : String) (short : Option CodePoint) : Rule :=
  { key := name, long := "--" ++ (name : Text), short := short }

/-- What is on a command line: the values of options in their order, and the other arguments. -/
structure Arguments where
  values : List (Text × Text)
  others : List Text

/-- The values that one argument gives, and the key whose value is still to come. -/
abbrev Given := List (Text × Text) × Option Text

/-- What short names behind one hyphen give, if they are all known. -/
def shortOptions? (rules : List Rule) : Text → Option Given
  | [] => some ([], none)
  | c :: rest =>
    (rules.find? fun r => r.short = some c).bind fun r =>
      match r.fixed with
      | some v => (shortOptions? rules rest).map fun (given, key) => ((r.key, v) :: given, key)
      | none => some (if rest = [] then ([], some r.key) else ([(r.key, rest)], none))

/-- What an argument that starts with a hyphen gives, if its option is known and used as it may
be. -/
def options? (rules : List Rule) (argument : Text) : Option Given :=
  let isName (c : CodePoint) : Bool := c ≠ '='
  let name : Text := argument.takeWhile isName
  let attached : Option Text := (after? name argument).bind (after? "=")
  match rules.find? fun r => r.long = name with
  | none => if argument.startsWith "--" then none else shortOptions? rules argument.tail
  | some r =>
    match r.fixed, attached with
    | some v, none => some ([(r.key, v)], none)
    | some _, some _ => none
    | none, some v => some ([(r.key, v)], none)
    | none, none => some ([], some r.key)

namespace Arguments

/-- The arguments with options in front of them. -/
def behind (given : List (Text × Text)) (a : Arguments) : Arguments :=
  { a with values := given ++ a.values }

/-- The arguments of a command line, if its options are among the rules. `mixed` tells whether
options may follow other arguments. -/
def read? (rules : List Rule) (mixed : Bool) : List Text → Option Arguments
  | [] => some ⟨[], []⟩
  | argument :: rest =>
    if argument = "--" then some ⟨[], rest⟩
    else if argument.startsWith "-" && argument ≠ "-" then
      match options? rules argument, rest with
      | none, _ => none
      | some (given, none), rest => (read? rules mixed rest).map (behind given)
      | some (_, some _), [] => none
      | some (given, some key), value :: rest =>
        (read? rules mixed rest).map (behind (given ++ [(key, value)]))
    else if mixed then
      (read? rules mixed rest).map fun a => { a with others := argument :: a.others }
    else some ⟨[], argument :: rest⟩

/-- The value of an option, which is the last one given. -/
def value? (a : Arguments) (key : Text) : Option Text := a.values.reverse.lookup key

end Arguments

end SitePreview.Command
