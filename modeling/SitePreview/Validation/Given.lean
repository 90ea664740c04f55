import SitePreview.Decimal.Scientific
import SitePreview.Json.Number
import SitePreview.Validation.Field

/-! What callers give where a text is called for. A text is not always asked to be one: what is no
text may be refused, may count as nothing, or may be stored as a text. -/

namespace SitePreview

/-- What is given for a text: nothing, a text, or another value, of which counts whether it stands
for nothing and how a column of texts stores it, if it can. -/
inductive Given
  | nothing
  | text (t : Text)
  | other (empty : Bool) (stored : Option Text)
deriving DecidableEq

namespace Given

/-- A double as a column of texts stores it: 15 digits and always a point. -/
def columnText (x : Float) : Option Text :=
  match Decimal.Value.ofFloat x with
  | .finite b =>
    let (num, den) := b.scaled 0
    let s : Text := Decimal.generalText 15 false num den
    let digits : Text := s.takeWhile fun c => c ≠ 'e'
    let exponent : Text := s.drop digits.length
    let point : Text := if digits.contains '.' then [] else ".0"
    let sign : Text := if b.negative then "-" else []
    some (sign ++ digits ++ point ++ exponent)
  | _ => none

def ofJson : Json → Given
  | .null => nothing
  | .string t => text t
  | .float x => other (x == 0) (columnText x)
  | v => other v.isNothing (v.wholeNumber?.map Text.ofInt)

def ofText? : Option Text → Given
  | none => nothing
  | some t => text t

/-- What counts as nothing. -/
def isNothing : Given → Bool
  | nothing => true
  | text t => t = []
  | other empty _ => empty

end Given

namespace Checked

def given : Given → Checked Text
  | .text t => ok t
  | _ => fail .notText

def given? : Given → Checked (Option Text)
  | .nothing => ok none
  | g => (given g).map some

/-- A given text that is not empty and can be written in UTF-8. -/
def filledGiven : Given → Checked Text
  | .text t => filledText (.string t)
  | _ => fail .notText

end Checked

end SitePreview
