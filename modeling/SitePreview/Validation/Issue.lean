import SitePreview.Text.Basic

/-! Issues: what is wrong with a value from outside, and where. Checking collects all issues in the
order of the parts that are checked. -/

namespace SitePreview

/-- A step from a value to one of its parts. -/
inductive Place
  | name (t : Text)
  | index (i : Int)
deriving DecidableEq

/-- What is wrong with a value. -/
inductive IssueCause
  | missing
  | notText
  | emptyText
  | notUnicode
  | notDictionary
  | notRecord (kind : Text)
  | notTuple
  | notList
  | notOneOf (names : List Text)
  | notInteger
  | integerFromText
  | integerFromFraction
  | integerTooLong
  | notFinite
  | notBoolean
  | booleanFromText
  | notDatetime
  | datetimeFromText (reason : Text)
  | datetimeFromDate (reason : Text)
  | extra
  | rule (message : Text)
deriving DecidableEq

namespace IssueCause

/-- The key under which the cause is reported. -/
def key : IssueCause → Text
  | missing => "missing"
  | notText => "string_type"
  | emptyText => "string_too_short"
  | notUnicode => "string_unicode"
  | notDictionary => "dict_type"
  | notRecord _ => "model_type"
  | notTuple => "tuple_type"
  | notList => "list_type"
  | notOneOf _ => "enum"
  | notInteger => "int_type"
  | integerFromText => "int_parsing"
  | integerFromFraction => "int_from_float"
  | integerTooLong => "int_parsing_size"
  | notFinite => "finite_number"
  | notBoolean => "bool_type"
  | booleanFromText => "bool_parsing"
  | notDatetime => "datetime_type"
  | datetimeFromText _ => "datetime_parsing"
  | datetimeFromDate _ => "datetime_from_date_parsing"
  | extra => "extra_forbidden"
  | rule _ => "value_error"

/-- Names in quotes with commas between them and `or` in front of the last. -/
def alternatives (names : List Text) : Text :=
  let marked : List Text := names.map fun n => "'" ++ n ++ "'"
  match marked.getLast? with
  | none => []
  | some last =>
    if marked.length = 1 then last else Text.join ", " marked.dropLast ++ " or " ++ last

def message : IssueCause → Text
  | missing => "Field required"
  | notText => "Input should be a valid string"
  | emptyText => "String should have at least 1 character"
  | notUnicode => "Input should be a valid string, unable to parse raw data as a unicode string"
  | notDictionary => "Input should be a valid dictionary"
  | notRecord kind => "Input should be a valid dictionary or instance of " ++ kind
  | notTuple => "Input should be a valid tuple"
  | notList => "Input should be a valid list"
  | notOneOf names => "Input should be " ++ alternatives names
  | notInteger => "Input should be a valid integer"
  | integerFromText => "Input should be a valid integer, unable to parse string as an integer"
  | integerFromFraction => "Input should be a valid integer, got a number with a fractional part"
  | integerTooLong => "Unable to parse input string as an integer, exceeded maximum size"
  | notFinite => "Input should be a finite number"
  | notBoolean => "Input should be a valid boolean"
  | booleanFromText => "Input should be a valid boolean, unable to interpret input"
  | notDatetime => "Input should be a valid datetime"
  | datetimeFromText reason => "Input should be a valid datetime, " ++ reason
  | datetimeFromDate reason => "Input should be a valid datetime or date, " ++ reason
  | extra => "Extra inputs are not permitted"
  | rule message => "Value error, " ++ message

end IssueCause

structure Issue where
  place : List Place
  cause : IssueCause
deriving DecidableEq

/-- A value that passed its checks, or everything that is wrong with it. -/
inductive Checked (α : Type)
  | ok (a : α)
  | bad (issues : List Issue)

namespace Checked

variable {α β : Type}

def issues : Checked α → List Issue
  | ok _ => []
  | bad is => is

def map (f : α → β) : Checked α → Checked β
  | ok a => ok (f a)
  | bad is => bad is

/-- Both parts are checked, and the issues of the first come first. -/
def apply (f : Checked (α → β)) (a : Checked α) : Checked β :=
  match f, a with
  | ok f, ok a => ok (f a)
  | ok _, bad is => bad is
  | bad is, a => bad (is ++ a.issues)

instance : Applicative Checked where
  pure := ok
  seq f a := apply f (a ())

/-- The checks of the parts of a list, one after another. -/
def all : List (Checked α) → Checked (List α)
  | [] => ok []
  | c :: cs => apply (c.map List.cons) (all cs)

/-- The issues lie in the named part. -/
def inside (place : Place) : Checked α → Checked α
  | ok a => ok a
  | bad is => bad (is.map fun i => { i with place := place :: i.place })

def fail (cause : IssueCause) : Checked α := bad [⟨[], cause⟩]

end Checked

end SitePreview
