import SitePreview.Seconds

/-! A cache of values by kind and project. Entries live for a fixed time and are dropped when they
are asked for too late; at capacity the oldest entry makes room. Times are those of a clock that
counts seconds. -/

namespace SitePreview

/-- What a value is cached under. -/
structure CacheKey where
  kind : Text
  project : Text
deriving DecidableEq

/-- A cached value with the times of its creation and of the last moment at which it is valid. -/
structure CacheEntry (α : Type) where
  value : α
  created : Seconds
  expires : Seconds
deriving DecidableEq

/-- How long entries live, how many there may be, and whether there are any at all. -/
structure CachePolicy where
  lifetime : Seconds := .ofInt 300
  capacity : Int := 1000
  enabled : Bool := true
deriving DecidableEq

/-- A cache, its entries in the order in which their keys came in. -/
structure Cache (α : Type) where
  policy : CachePolicy := {}
  entries : List (CacheKey × CacheEntry α) := []
  hits : Nat := 0
  misses : Nat := 0
deriving DecidableEq

namespace Cache

variable {α : Type}

/-- The entries with one set: a key there is keeps its place. -/
def setEntry (key : CacheKey) (entry : CacheEntry α) :
    List (CacheKey × CacheEntry α) → List (CacheKey × CacheEntry α)
  | [] => [(key, entry)]
  | (k, e) :: es => if k = key then (k, entry) :: es else (k, e) :: setEntry key entry es

def dropKey (key : CacheKey) (es : List (CacheKey × CacheEntry α)) :
    List (CacheKey × CacheEntry α) :=
  es.filter fun e => e.1 ≠ key

/-- The value of a key, and the cache afterwards: an expired entry is dropped, and hits and misses
are counted. -/
def get (c : Cache α) (now : Seconds) (key : CacheKey) : Option α × Cache α :=
  if !c.policy.enabled then (none, c)
  else
    match c.entries.lookup key with
    | none => (none, { c with misses := c.misses + 1 })
    | some e =>
      if e.expires < now then
        (none, { c with entries := dropKey key c.entries, misses := c.misses + 1 })
      else (some e.value, { c with hits := c.hits + 1 })

/-- The key of the entry created first; of several the one that came in first. -/
def oldest? : List (CacheKey × CacheEntry α) → Option CacheKey
  | [] => none
  | e :: es =>
    some (es.foldl (fun best e => if e.2.created < best.2.created then e else best) e).1

/-- The cache with a value put in. There is none if the capacity leaves no room for any entry. -/
def put (c : Cache α) (now : Seconds) (key : CacheKey) (value : α) : Option (Cache α) :=
  if !c.policy.enabled then some c
  else
    let entry : CacheEntry α :=
      { value := value
        created := now
        expires := now + c.policy.lifetime }
    let isNew := (c.entries.lookup key).isNone
    if c.policy.capacity ≤ c.entries.length && isNew then
      (oldest? c.entries).map fun k =>
        { c with entries := setEntry key entry (dropKey k c.entries) }
    else some { c with entries := setEntry key entry c.entries }

/-- The cache without the entries of a project. -/
def invalidate (c : Cache α) (project : Text) : Cache α :=
  { c with entries := c.entries.filter fun e => e.1.project ≠ project }

def countOf (c : Cache α) (project : Text) : Nat :=
  (c.entries.filter fun e => e.1.project = project).length

/-- The share of hits among all counted calls. -/
def hitRate (c : Cache α) : Float :=
  if c.hits + c.misses = 0 then 0 else c.hits.toFloat / (c.hits + c.misses).toFloat

def noRoomMessage : Text := "min() arg is an empty sequence"

end Cache

end SitePreview
