import SitePreview.Keyed
import SitePreview.Text.Basic

/-! File sets: finite maps from paths to contents that remember the order in which paths came in.
Setting a path again changes its content and keeps its place. -/

namespace SitePreview

/-- Contents by path, in order of insertion. -/
structure FileSet where
  entries : List (Text × Text)
  nodup : (entries.map Prod.fst).Nodup
deriving DecidableEq

namespace FileSet

def empty : FileSet := ⟨[], List.nodup_nil⟩

instance : Inhabited FileSet := ⟨empty⟩

/-- The entries with the content of a path set. -/
def setEntry (path content : Text) : List (Text × Text) → List (Text × Text)
  | [] => [(path, content)]
  | (p, c) :: rest =>
    if p = path then (p, content) :: rest else (p, c) :: setEntry path content rest

theorem fst_setEntry (path content : Text) (es : List (Text × Text)) :
    (setEntry path content es).map Prod.fst =
      if path ∈ es.map Prod.fst then es.map Prod.fst else es.map Prod.fst ++ [path] := by
  induction es with
  | nil => simp [setEntry]
  | cons e rest ih =>
    by_cases h : e.1 = path
    · simp [setEntry, h]
    · have h' : path ≠ e.1 := fun k => h k.symm
      by_cases hm : path ∈ rest.map Prod.fst <;> simp_all [setEntry]

def insert (files : FileSet) (path content : Text) : FileSet where
  entries := setEntry path content files.entries
  nodup := by
    rw [fst_setEntry]
    split
    · exact files.nodup
    · next h =>
      rw [List.nodup_append]
      refine ⟨files.nodup, by simp, ?_⟩
      intro a ha b hb hab
      simp only [List.mem_singleton] at hb
      exact h (hb ▸ hab ▸ ha)

def erase (files : FileSet) (path : Text) : FileSet where
  entries := files.entries.filter fun e => e.1 ≠ path
  nodup := files.nodup.sublist (List.filter_sublist.map Prod.fst)

/-- The file set of a list of entries: a repeated path keeps its first place and takes the last
content. -/
def ofList (entries : List (Text × Text)) : FileSet :=
  entries.foldl (fun files e => files.insert e.1 e.2) empty

def get? (files : FileSet) (path : Text) : Option Text := files.entries.lookup path

@[simp] theorem get?_empty (path : Text) : empty.get? path = none := rfl

theorem lookup_setEntry (path content q : Text) (es : List (Text × Text)) :
    (setEntry path content es).lookup q = if q = path then some content else es.lookup q := by
  induction es with
  | nil => rw [setEntry, Keyed.lookup_cons]
  | cons e rest ih =>
    obtain ⟨p, c⟩ := e
    rw [setEntry]
    split
    · next h =>
      subst h
      rw [Keyed.lookup_cons, Keyed.lookup_cons]
      split <;> rfl
    · next h =>
      rw [Keyed.lookup_cons, Keyed.lookup_cons, ih]
      split
      · next hq => rw [if_neg fun k => h (hq.symm.trans k)]
      · rfl

@[simp] theorem get?_insert (files : FileSet) (path content q : Text) :
    (files.insert path content).get? q = if q = path then some content else files.get? q :=
  lookup_setEntry path content q files.entries

@[simp] theorem get?_erase (files : FileSet) (path q : Text) :
    (files.erase path).get? q = if q = path then none else files.get? q :=
  Keyed.lookup_filter_ne path q files.entries

/-- The paths in order of insertion. -/
def paths (files : FileSet) : List Text := files.entries.map Prod.fst

def sortedPaths (files : FileSet) : List Text := Text.sort files.paths

/-- The contents in order of insertion. -/
def contents (files : FileSet) : List Text := files.entries.map Prod.snd

def size (files : FileSet) : Nat := files.entries.length

def contains (files : FileSet) (path : Text) : Bool := files.paths.contains path

/-- The content of a path, which is empty where there is no file. -/
def content (files : FileSet) (path : Text) : Text := (files.get? path).getD []

end FileSet

end SitePreview
