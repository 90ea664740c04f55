import SitePreview.Json.Basic
import SitePreview.Decimal.Shortest
import SitePreview.Text.Quoted

/-! JSON values as literals for messages: `None`, `True` and `False` for the three words, and texts
in quotes that show what is not printable. -/

namespace SitePreview.Json

mutual

/-- The literal of a value. -/
def literal : Json → Text
  | null => "None"
  | bool b => if b then "True" else "False"
  | int i => .ofInt i
  | float x => Decimal.shortest x
  | string t => t.quoted
  | array items => "[" ++ Text.join ", " (itemLiterals items) ++ "]"
  | object members => "\x7b" ++ Text.join ", " (memberLiterals members) ++ "\x7d"

def itemLiterals : List Json → List Text
  | [] => []
  | v :: vs => literal v :: itemLiterals vs

def memberLiterals : List (Text × Json) → List Text
  | [] => []
  | (k, v) :: ms => (k.quoted ++ ": " ++ literal v) :: memberLiterals ms

end

/-- The text of a value in running text: a text stands for itself, all else is a literal. -/
def plain : Json → Text
  | string t => t
  | v => v.literal

/-- The name of the type of a value in messages. -/
def typeName : Json → Text
  | null => "NoneType"
  | bool _ => "bool"
  | int _ => "int"
  | float _ => "float"
  | string _ => "str"
  | array _ => "list"
  | object _ => "dict"

end SitePreview.Json
