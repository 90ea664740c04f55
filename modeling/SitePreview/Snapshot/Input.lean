import SitePreview.Json.Number
import SitePreview.Snapshot.Entry
import SitePreview.Validation.Field

/-! File mappings from outside: what keys and contents they hold is checked before they become a
file set. A snapshot is a file set whose files all follow the rules. -/

namespace SitePreview

/-- A mapping from outside, or a value given in its place. -/
inductive RawMapping
  | entries (es : List (Json × Json))
  | other (v : Json)

namespace RawMapping

/-- The keys are the same: texts by their code points, numbers and booleans by their value. -/
def sameKey (a b : Json) : Bool :=
  match a, b with
  | .string s, .string t => s = t
  | .null, .null => true
  | a, b => a.steps?.isSome && a.steps? = b.steps?

/-- The entries with the value of a key set: a key there is keeps its place. -/
def setEntry (key value : Json) : List (Json × Json) → List (Json × Json)
  | [] => [(key, value)]
  | (k, v) :: es => if sameKey k key then (k, value) :: es else (k, v) :: setEntry key value es

def isKey : Json → Bool
  | .array _ | .object _ => false
  | _ => true

/-- The mapping of a list of pairs. Pairs with what cannot be a key form none. -/
def ofPairs (ps : List (Json × Json)) : RawMapping :=
  if ps.all fun p => isKey p.1 then entries (ps.foldl (fun es (k, v) => setEntry k v es) [])
  else other (.array (ps.map fun (k, v) => .array [k, v]))

/-- The mapping of an object, or the value itself. -/
def ofJson : Json → RawMapping
  | .object ms => entries (ms.map fun (k, v) => (.string k, v))
  | v => other v

/-- The mapping that texts form. -/
def ofFiles (files : FileSet) : RawMapping :=
  entries (files.entries.map fun (p, c) => (.string p, .string c))

end RawMapping

/-- The step to the value of a key. Integers of 64 bits are steps by index. -/
def Place.ofKey : Json → Place
  | .string t => .name t
  | .int i => if -2 ^ 63 ≤ i ∧ i < 2 ^ 63 then .index i else .name (.ofInt i)
  | .bool b => .index (if b then 1 else 0)
  | v => .name v.literal

/-- Key and content of an entry have to be texts. -/
def Checked.entry (key value : Json) : Checked (Text × Text) :=
  let place := Place.ofKey key
  Checked.apply
    (((Checked.text key).inside (.name "[key]")).inside place |>.map Prod.mk)
    ((Checked.text value).inside place)

/-- A mapping of texts to texts. -/
def Checked.fileSet : RawMapping → Checked FileSet
  | .entries es => (Checked.all (es.map fun (k, v) => entry k v)).map FileSet.ofList
  | .other _ => fail .notDictionary

/-- Why a value is no snapshot: it cannot be read as pairs, it is no mapping, or something is wrong
with its files. -/
inductive SnapshotError
  | notPairs
  | notMapping
  | issues (is : List Issue)

namespace SnapshotError

/-- The text about a value that cannot be read as pairs. -/
def notPairsMessage : Text := "dictionary update sequence element #0 has length 1; 2 is required"

end SnapshotError

namespace Snapshot

/-- The files of a mapping checked against the rules, of which the first one broken is reported. -/
def checkFiles (files : FileSet) : Except (List Issue) FileSet :=
  match files.error? with
  | some e => .error [⟨[.name "files"], .rule e.message⟩]
  | none => .ok files

def ofMapping (m : RawMapping) : Except (List Issue) FileSet :=
  match (Checked.fileSet m).inside (.name "files") with
  | .bad is => .error is
  | .ok files => checkFiles files

/-- A value in place of a mapping: an empty text counts as an empty mapping. -/
def mappingOf : RawMapping → Except SnapshotError RawMapping
  | .entries es => .ok (.entries es)
  | .other (.string t) => if t = [] then .ok (.entries []) else .error .notPairs
  | .other _ => .error .notMapping

/-- The snapshot of a value from outside. -/
def ofValue (m : RawMapping) : Except SnapshotError FileSet := do
  let m ← mappingOf m
  match ofMapping m with
  | .ok files => return files
  | .error is => throw (.issues is)

/-- The snapshot of a value from outside, where nothing stands for no files. -/
def ofOptional (m : RawMapping) : Except SnapshotError FileSet :=
  match m with
  | .other v => if v.isNothing then .ok .empty else ofValue m
  | m => ofValue m

end Snapshot

end SitePreview
