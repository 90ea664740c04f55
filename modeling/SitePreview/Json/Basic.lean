import SitePreview.Text.Basic

/-! JSON values. Objects keep the order of their members, and integers are apart from other
numbers. -/

namespace SitePreview

inductive Json
  | null
  | bool (b : Bool)
  | int (i : Int)
  | float (x : Float)
  | string (t : Text)
  | array (items : List Json)
  | object (members : List (Text × Json))
deriving Inhabited

namespace Json

/-- The value of a member of an object. -/
def get? (key : Text) : Json → Option Json
  | object members => members.lookup key
  | _ => none

/-- The member with the key set: it keeps its place, and a new one comes last. -/
def setMember (key : Text) (value : Json) : List (Text × Json) → List (Text × Json)
  | [] => [(key, value)]
  | (k, v) :: rest => if k = key then (k, value) :: rest else (k, v) :: setMember key value rest

def asText? : Json → Option Text
  | string t => some t
  | _ => none

def asInt? : Json → Option Int
  | int i => some i
  | _ => none

def asBool? : Json → Option Bool
  | bool b => some b
  | _ => none

def asArray? : Json → Option (List Json)
  | array items => some items
  | _ => none

mutual

/-- The value holds an integer that is as far from zero as the bound or farther. -/
def hasIntegerBeyond (bound : Nat) : Json → Bool
  | int i => bound ≤ i.natAbs
  | array items => itemsHaveIntegerBeyond bound items
  | object members => membersHaveIntegerBeyond bound members
  | _ => false

def itemsHaveIntegerBeyond (bound : Nat) : List Json → Bool
  | [] => false
  | v :: vs => v.hasIntegerBeyond bound || itemsHaveIntegerBeyond bound vs

def membersHaveIntegerBeyond (bound : Nat) : List (Text × Json) → Bool
  | [] => false
  | (_, v) :: ms => v.hasIntegerBeyond bound || membersHaveIntegerBeyond bound ms

end

def ofTexts (ts : List Text) : Json := array (ts.map string)

def ofText? (t : Option Text) : Json := (t.map string).getD null

end Json

end SitePreview
