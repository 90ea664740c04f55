import SitePreview.Text.Utf8

/-! Directory trees: files with their bytes, and directories with named entries. A place in a tree
is a list of names. -/

namespace SitePreview

inductive Node
  | file (bytes : List UInt8)
  | directory (entries : List (Text × Node))

/-- Why a tree cannot be changed: something else stands in the place, or on the way to it is a file
or nothing, or a name has too many bytes. -/
inductive TreeError
  | exists
  | isDirectory
  | notDirectory
  | missing
  | nameTooLong
deriving DecidableEq

def TreeError.message : TreeError → Text
  | .exists => "a file is in the way"
  | .isDirectory => "a directory is in the way"
  | .notDirectory => "a file is on the way"
  | .missing => "there is no such directory"
  | .nameTooLong => "a name is too long"

namespace Node

/-- The greatest number of bytes of a name. -/
def maxNameSize : Nat := 255

def empty : Node := directory []

instance : Inhabited Node := ⟨empty⟩

/-- The entries with one set: a name there is keeps its place. -/
def setEntry (name : Text) (node : Node) : List (Text × Node) → List (Text × Node)
  | [] => [(name, node)]
  | (n, m) :: es => if n = name then (n, node) :: es else (n, m) :: setEntry name node es

/-- What stands in a place. -/
def get? : List Text → Node → Option Node
  | [], node => some node
  | _ :: _, file _ => none
  | name :: place, directory es => (es.lookup name).bind (get? place)

def isDirectory (place : List Text) (root : Node) : Bool :=
  match root.get? place with
  | some (directory _) => true
  | _ => false

def bytes? (place : List Text) (root : Node) : Option (List UInt8) :=
  match root.get? place with
  | some (file bs) => some bs
  | _ => none

/-- Makes a directory and those on the way to it, where there are none yet. -/
def makeDirectories : List Text → Node → Except TreeError Node
  | [], directory es => .ok (directory es)
  | [], file _ => .error .exists
  | _ :: _, file _ => .error .notDirectory
  | name :: place, directory es =>
    if maxNameSize < name.utf8Size then .error .nameTooLong
    else (makeDirectories place ((es.lookup name).getD empty)).map fun node =>
      directory (setEntry name node es)

/-- Writes a file into a directory there is. -/
def write (bytes : List UInt8) : List Text → Node → Except TreeError Node
  | [], _ => .error .isDirectory
  | _ :: _, file _ => .error .notDirectory
  | [name], directory es =>
    if maxNameSize < name.utf8Size then .error .nameTooLong
    else match es.lookup name with
    | some (directory _) => .error .isDirectory
    | _ => .ok (directory (setEntry name (file bytes) es))
  | name :: next :: place, directory es =>
    match es.lookup name with
    | none => .error .missing
    | some child =>
      (write bytes (next :: place) child).map fun node => directory (setEntry name node es)

mutual

/-- The places of a node's files with their bytes, seen from the node. -/
def files : Node → List (List Text × List UInt8)
  | file bs => [([], bs)]
  | directory es => filesOfEntries es

def filesOfEntries : List (Text × Node) → List (List Text × List UInt8)
  | [] => []
  | (name, node) :: es => node.files.map (fun (p, bs) => (name :: p, bs)) ++ filesOfEntries es

end

mutual

/-- The places of all that lies below a node. -/
def places : Node → List (List Text)
  | file _ => []
  | directory es => placesOfEntries es

def placesOfEntries : List (Text × Node) → List (List Text)
  | [] => []
  | (name, node) :: es => [name] :: node.places.map (name :: ·) ++ placesOfEntries es

end

/-- The items in the order of their places, which are compared name by name. -/
def sortByPlace {α : Type} (items : List (List Text × α)) : List (List Text × α) :=
  items.mergeSort fun a b => decide (a.1 ≤ b.1)

end Node

end SitePreview
