import SitePreview.Document.Render
import SitePreview.Proofs.FileSet.Lookup
import SitePreview.Proofs.Project.Storable
import SitePreview.Proofs.Text.Parts
import SitePreview.Proofs.Tree.Places
import SitePreview.Snapshot.Canonical
import SitePreview.Tree.Load

/-! Loading a directory. The file set that is loaded holds the files that are seen, small enough and
UTF-8 text, each by its path, and nothing else in the tree has any part in it. What is loaded from a
directory that is seen is what the whole holds below it. -/

namespace SitePreview.Node

open Text CodePoint

variable {α : Type} {root below other node : Node} {es : List (Text × Node)} {name : Text}
  {place place' : List Text} {bytes : List UInt8} {text path : Text} {maxBytes : Int}

/-- A name that an entry of a directory can have. -/
structure IsEntryName (name : Text) : Prop where
  notBlank : name.isBlank = false
  isUtf8 : name.isUtf8 = true
  noSlash : ofChar '/' ∉ name
  noNul : ofChar '\x00' ∉ name

/-- The entries of each directory in the tree have different names. -/
inductive IsTree : Node → Prop
  | leaf (bytes : List UInt8) : IsTree (file bytes)
  | branch {es : List (Text × Node)} (hnames : ∀ e ∈ es, IsEntryName e.1)
      (hnodup : (es.map Prod.fst).Nodup) (htrees : ∀ e ∈ es, IsTree e.2) : IsTree (directory es)

instance (name : Text) : Decidable (IsEntryName name) :=
  decidable_of_iff (name.isBlank = false ∧ name.isUtf8 = true ∧ ofChar '/' ∉ name ∧
      ofChar '\x00' ∉ name)
    ⟨fun ⟨h1, h2, h3, h4⟩ => ⟨h1, h2, h3, h4⟩, fun ⟨h1, h2, h3, h4⟩ => ⟨h1, h2, h3, h4⟩⟩

/-- No name on the way to the file begins with a dot, and no directory on the way is one that is
passed over. -/
structure IsSeen (place : List Text) : Prop where
  names : ∀ name ∈ place, name.head? ≠ some (ofChar '.')
  directories : ∀ name ∈ place.dropLast, name ∉ skippedDirectories

/-- Neither the directory nor one on the way to it is hidden or passed over. -/
def IsSeenDirectory (place : List Text) : Prop :=
  ∀ name ∈ place, name.head? ≠ some (ofChar '.') ∧ name ∉ skippedDirectories

/-- The file in the place is loaded with the text: it is seen, it is not too large, and its bytes are
those of the text in UTF-8. -/
structure IsLoaded (maxBytes : Int) (root : Node) (place : List Text) (text : Text) : Prop where
  seen : IsSeen place
  small : (text.utf8Bytes.length : Int) ≤ maxBytes
  isUtf8 : text.isUtf8 = true
  bytes : root.bytes? place = some text.utf8Bytes

/-- A file of these bytes in the place is not loaded: it is not seen, it is too large, or its bytes
are no UTF-8. -/
inductive IsIgnored (maxBytes : Int) (place : List Text) (bytes : List UInt8) : Prop
  | unseen (h : ¬IsSeen place)
  | large (h : maxBytes < bytes.length)
  | undecodable (h : ∀ text : Text, text.isUtf8 = true → text.utf8Bytes ≠ bytes)

/-- The trees differ in nothing but files that are not loaded. -/
def SameButIgnored (maxBytes : Int) (root other : Node) : Prop :=
  ∀ place bytes, ¬IsIgnored maxBytes place bytes →
    (root.bytes? place = some bytes ↔ other.bytes? place = some bytes)

/-- The entry that a file in a place makes. -/
def entryOf (f : List Text × Text) : Text × Text := (Text.join "/" f.1, f.2)

/-- The path of a directory, with a slash behind each name. -/
def directoryPath (place : List Text) : Text := place.flatMap fun name => name ++ "/"

/-- An entry whose path leads below the directory, with the rest of its path. -/
def entryBelow? (place : List Text) (e : Text × Text) : Option (Text × Text) :=
  (Text.after? (directoryPath place) e.1).map fun rest => (rest, e.2)

section Order

theorem le_of_le_of_le {a b c : List Text} (hab : a ≤ b) (hbc : b ≤ c) : a ≤ c := by
  rcases List.le_iff_lt_or_eq.mp hab with hlt | rfl
  · rcases List.le_iff_lt_or_eq.mp hbc with hlt' | rfl
    · exact List.le_iff_lt_or_eq.mpr (.inl (List.lt_trans hlt hlt'))
    · exact hab
  · exact hbc

theorem mem_sortByPlace {items : List (List Text × α)} {item : List Text × α} :
    item ∈ sortByPlace items ↔ item ∈ items := (List.mergeSort_perm items _).mem_iff

theorem pairwise_sortByPlace {items : List (List Text × α)} (h : (items.map Prod.fst).Nodup) :
    (sortByPlace items).Pairwise fun a b => a.1 < b.1 := by
  have hsorted : (sortByPlace items).Pairwise fun a b => decide (a.1 ≤ b.1) = true := by
    refine List.pairwise_mergeSort (fun a b c hab hbc => ?_) (fun a b => ?_) items
    · exact decide_eq_true (le_of_le_of_le (of_decide_eq_true hab) (of_decide_eq_true hbc))
    · simpa using List.le_total a.1 b.1
  have hnodup : (sortByPlace items).Pairwise fun a b => a.1 ≠ b.1 :=
    List.pairwise_map.mp (((List.mergeSort_perm items _).map Prod.fst).nodup_iff.mpr h)
  refine (hsorted.and hnodup).imp fun {a b} h => ?_
  exact (List.le_iff_lt_or_eq.mp (of_decide_eq_true h.1)).resolve_right h.2

/-- Items in the order of different places are determined by which they are. -/
theorem eq_of_pairwise_of_mem_iff {items others : List (List Text × α)}
    (h : items.Pairwise fun a b => a.1 < b.1) (h' : others.Pairwise fun a b => a.1 < b.1)
    (hmem : ∀ item, item ∈ items ↔ item ∈ others) : items = others := by
  have : Std.Irrefl fun a b : List Text × α => a.1 < b.1 := ⟨fun a => List.lt_irrefl a.1⟩
  have : Std.Antisymm fun a b : List Text × α => a.1 < b.1 :=
    ⟨fun a b hab hba => absurd hba (List.lt_asymm hab)⟩
  exact h.eq_of_mem_iff h' hmem

end Order

section Files

theorem filesOfEntries_eq (es : List (Text × Node)) :
    filesOfEntries es = es.flatMap fun e => e.2.files.map fun f => (e.1 :: f.1, f.2) := by
  induction es with
  | nil => rfl
  | cons e es ih => rw [filesOfEntries, ih, List.flatMap_cons]

theorem IsTree.mem_files (h : root.IsTree) :
    (place, bytes) ∈ root.files ↔ root.bytes? place = some bytes := by
  induction h generalizing place with
  | leaf bytes' =>
    rw [files, List.mem_singleton, Prod.mk.injEq]
    cases place with
    | nil => simp [bytes?, get?, eq_comm]
    | cons name place => simp
  | @branch es hnames hnodup htrees ih =>
    rw [files, filesOfEntries_eq, List.mem_flatMap]
    simp only [List.mem_map, Prod.mk.injEq, Prod.exists]
    cases place with
    | nil => simp
    | cons name place =>
      rw [bytes?_cons, Option.bind_eq_some_iff]
      simp only [Keyed.lookup_eq_some_iff hnodup, List.cons.injEq]
      constructor
      · rintro ⟨name, node, hentry, place, bytes, hfile, ⟨rfl, rfl⟩, rfl⟩
        exact ⟨node, hentry, (ih _ hentry).mp hfile⟩
      · rintro ⟨node, hentry, hfile⟩
        exact ⟨name, node, hentry, place, bytes, (ih _ hentry).mpr hfile, ⟨rfl, rfl⟩, rfl⟩

theorem IsTree.nodup_files (h : root.IsTree) : (root.files.map Prod.fst).Nodup := by
  induction h with
  | leaf bytes => exact List.nodup_singleton _
  | @branch es hnames hnodup htrees ih =>
    have hplaces (e : Text × Node) : (e.2.files.map fun f => (e.1 :: f.1, f.2)).map Prod.fst =
        (e.2.files.map Prod.fst).map (e.1 :: ·) := by
      simp only [List.map_map, Function.comp_def]
    rw [files, filesOfEntries_eq, List.map_flatMap, List.nodup_flatMap]
    simp only [hplaces]
    constructor
    · exact fun e he => (ih e he).map fun _ _ heq => (List.cons.inj heq).2
    · refine (List.pairwise_map.mp hnodup).imp fun {e e'} hne p hp hp' => ?_
      obtain ⟨q, -, rfl⟩ := List.mem_map.mp hp
      obtain ⟨q', -, heq⟩ := List.mem_map.mp hp'
      exact hne (List.cons.inj heq).1.symm

theorem get?_append (root : Node) (place place' : List Text) :
    root.get? (place ++ place') = (root.get? place).bind (get? place') := by
  induction place generalizing root with
  | nil => rfl
  | cons name place ih =>
    cases root with
    | file bytes => rfl
    | directory es =>
      rw [List.cons_append, get?, get?]
      cases es.lookup name with
      | none => rfl
      | some node => exact ih node

theorem bytes?_append (h : root.get? place = some node) (place' : List Text) :
    root.bytes? (place ++ place') = node.bytes? place' := by
  rw [bytes?, get?_append, h]
  rfl

/-- What stands in a tree is a tree, and the names on the way to it are those of entries. -/
theorem IsTree.of_get? (h : root.IsTree) (hget : root.get? place = some node) :
    node.IsTree ∧ ∀ name ∈ place, IsEntryName name := by
  induction place generalizing root with
  | nil =>
    obtain rfl := Option.some.inj hget
    exact ⟨h, by simp⟩
  | cons name place ih =>
    cases h with
    | leaf bytes => cases hget
    | branch hnames hnodup htrees =>
      obtain ⟨child, hchild, hget⟩ := Option.bind_eq_some_iff.mp hget
      have hentry := Keyed.mem_of_lookup_eq_some hchild
      obtain ⟨hnode, hplace⟩ := ih (htrees _ hentry) hget
      exact ⟨hnode, List.forall_mem_cons.mpr ⟨hnames _ hentry, hplace⟩⟩

theorem get?_of_bytes? (h : root.bytes? place = some bytes) :
    root.get? place = some (file bytes) := by
  rw [bytes?] at h
  split at h
  · next hget => rw [hget, Option.some.inj h]
  · cases h

end Files

section Loaded

theorem startsWith_dot (name : Text) :
    name.startsWith "." = true ↔ name.head? = some (ofChar '.') := by
  cases name with
  | nil => decide
  | cons c name =>
    show (ofChar '.' == c && true) = true ↔ some c = some (ofChar '.')
    rw [Bool.and_true, beq_iff_eq, Option.some.injEq, eq_comm]

theorem isVisible_eq_true_iff : isVisible place = true ↔ IsSeen place := by
  simp only [isVisible, Bool.and_eq_true, List.all_eq_true, Bool.not_eq_true', ← Bool.not_eq_true,
    startsWith_dot, List.contains_iff_mem]
  exact ⟨fun ⟨hdirectories, hnames⟩ => ⟨hnames, hdirectories⟩,
    fun ⟨hnames, hdirectories⟩ => ⟨hdirectories, hnames⟩⟩

instance (place : List Text) : Decidable (IsSeen place) :=
  decidable_of_iff _ isVisible_eq_true_iff

theorem textOf?_eq_some_iff : textOf? maxBytes bytes = some text ↔
    (bytes.length : Int) ≤ maxBytes ∧ text.isUtf8 = true ∧ text.utf8Bytes = bytes := by
  rw [textOf?]
  split
  · next hlarge => simp [Int.not_le.mpr hlarge]
  · next hlarge => simp [Int.not_lt.mp hlarge, ofUtf8?_eq_some_iff]

theorem IsTree.mem_loadedFiles (h : root.IsTree) :
    (place, text) ∈ root.loadedFiles maxBytes ↔ IsLoaded maxBytes root place text := by
  simp only [loadedFiles, List.mem_filterMap, mem_sortByPlace, Prod.exists]
  constructor
  · rintro ⟨place, bytes, hfile, hload⟩
    split at hload
    · next hvisible =>
      obtain ⟨text, htext, heq⟩ := Option.map_eq_some_iff.mp hload
      obtain ⟨rfl, rfl⟩ := Prod.mk.inj heq
      obtain ⟨hsmall, hvalid, rfl⟩ := textOf?_eq_some_iff.mp htext
      exact ⟨isVisible_eq_true_iff.mp hvisible, hsmall, hvalid, h.mem_files.mp hfile⟩
    · cases hload
  · rintro ⟨hseen, hsmall, hvalid, hbytes⟩
    refine ⟨place, _, h.mem_files.mpr hbytes, ?_⟩
    rw [if_pos (isVisible_eq_true_iff.mpr hseen), textOf?_eq_some_iff.mpr ⟨hsmall, hvalid, rfl⟩]
    rfl

theorem IsTree.pairwise_loadedFiles (h : root.IsTree) (maxBytes : Int) :
    (root.loadedFiles maxBytes).Pairwise fun a b => a.1 < b.1 := by
  have hplace {e : List Text × List UInt8} {d : List Text × Text}
      (hd : (if isVisible e.1 then (textOf? maxBytes e.2).map fun t => (e.1, t) else none) =
        some d) : d.1 = e.1 := by
    split at hd
    · obtain ⟨text, -, rfl⟩ := Option.map_eq_some_iff.mp hd
      rfl
    · cases hd
  rw [loadedFiles, List.pairwise_filterMap]
  refine (pairwise_sortByPlace h.nodup_files).imp fun hlt d hd d' hd' => ?_
  rw [hplace hd, hplace hd']
  exact hlt

theorem IsLoaded.names (hloaded : IsLoaded maxBytes root place text) (h : root.IsTree) :
    ∀ name ∈ place, IsEntryName name :=
  (h.of_get? (get?_of_bytes? hloaded.bytes)).2

theorem IsLoaded.ne_nil (hloaded : IsLoaded maxBytes (directory es) place text) : place ≠ [] := by
  rintro rfl
  cases hloaded.bytes

/-- Files in the same place of the tree are the only ones with the same path. -/
theorem IsTree.nodup_paths (h : (directory es).IsTree) (maxBytes : Int) :
    (((directory es).loadedFiles maxBytes).map fun f => join "/" f.1).Nodup := by
  rw [List.nodup_iff_pairwise_ne, List.pairwise_map]
  refine (h.pairwise_loadedFiles maxBytes).imp_of_mem fun {a b} ha hb hlt heq => ?_
  have ha := h.mem_loadedFiles.mp ha
  have hb := h.mem_loadedFiles.mp hb
  have hplace : a.1 = b.1 := join_inj ha.ne_nil hb.ne_nil
    (fun name hname => (ha.names h name hname).noSlash)
    (fun name hname => (hb.names h name hname).noSlash) heq
  exact List.lt_irrefl _ (hplace ▸ hlt)

theorem IsTree.entries_load (h : (directory es).IsTree) (maxBytes : Int) :
    ((directory es).load maxBytes).entries =
      ((directory es).loadedFiles maxBytes).map entryOf := by
  refine FileSet.foldl_insert_entries .empty _ ?_
  rw [FileSet.empty, List.nil_append, List.map_map]
  exact h.nodup_paths maxBytes

theorem IsTree.get?_load (h : (directory es).IsTree) :
    ((directory es).load maxBytes).get? path = some text ↔
      ∃ place, path = join "/" place ∧ IsLoaded maxBytes (directory es) place text := by
  rw [FileSet.get?_eq_some_iff, h.entries_load, List.mem_map]
  simp only [entryOf, Prod.mk.injEq, Prod.exists]
  constructor
  · rintro ⟨place, text, hfile, rfl, rfl⟩
    exact ⟨place, rfl, h.mem_loadedFiles.mp hfile⟩
  · rintro ⟨place, rfl, hloaded⟩
    exact ⟨place, text, h.mem_loadedFiles.mpr hloaded, rfl, rfl⟩

/-- Paths of entries follow the rules of a snapshot. -/
theorem entryError?_join (hne : place ≠ []) (hnames : ∀ name ∈ place, IsEntryName name)
    (htext : text.isUtf8 = true) : entryError? (join "/" place) (some text) = none := by
  have hblank : (join "/" place).isBlank = false := by
    obtain ⟨name, hname⟩ := List.exists_mem_of_ne_nil place hne
    obtain ⟨c, hc, hcblank⟩ := List.all_eq_false.mp (hnames name hname).notBlank
    exact List.all_eq_false.mpr ⟨c, mem_join_of_mem hname hc, hcblank⟩
  have hnul : ofChar '\x00' ∉ join "/" place := by
    intro hmem
    rcases mem_join hmem with hmem | ⟨name, hname, hmem⟩
    · exact absurd hmem (by decide)
    · exact (hnames name hname).noNul hmem
  have hutf8 : (join "/" place).isUtf8 = true := by
    refine List.all_eq_true.mpr fun c hc => ?_
    rcases mem_join hc with hc | ⟨name, hname, hc⟩
    · obtain rfl := List.mem_singleton.mp hc
      rfl
    · exact List.all_eq_true.mp (hnames name hname).isUtf8 c hc
  simp [entryError?, hblank, hnul, hutf8, htext]

theorem IsTree.legal_load (h : (directory es).IsTree) (maxBytes : Int) :
    ((directory es).load maxBytes).Legal := by
  rw [FileSet.legal_iff]
  rintro ⟨path, text⟩ hentry
  obtain ⟨place, rfl, hloaded⟩ := h.get?_load.mp (FileSet.get?_eq_some_iff.mpr hentry)
  exact entryError?_join hloaded.ne_nil (hloaded.names h) hloaded.isUtf8

theorem IsLoaded.not_isIgnored (h : IsLoaded maxBytes root place text) :
    ¬IsIgnored maxBytes place text.utf8Bytes := by
  rintro (hunseen | hlarge | hundecodable)
  · exact hunseen h.seen
  · exact absurd h.small (Int.not_le.mpr hlarge)
  · exact hundecodable text h.isUtf8 rfl

/-- What is not loaded has no part in what is. -/
theorem loadedFiles_eq_of_sameButIgnored (h : root.IsTree) (hother : other.IsTree)
    (hsame : SameButIgnored maxBytes root other) :
    other.loadedFiles maxBytes = root.loadedFiles maxBytes := by
  refine eq_of_pairwise_of_mem_iff (hother.pairwise_loadedFiles _) (h.pairwise_loadedFiles _) ?_
  rintro ⟨place, text⟩
  rw [h.mem_loadedFiles, hother.mem_loadedFiles]
  constructor
  · intro hloaded
    exact { hloaded with bytes := (hsame _ _ hloaded.not_isIgnored).mpr hloaded.bytes }
  · intro hloaded
    exact { hloaded with bytes := (hsame _ _ hloaded.not_isIgnored).mp hloaded.bytes }

end Loaded

section Below

theorem isSeen_append (hplace : IsSeenDirectory place) (hne : place' ≠ []) :
    IsSeen (place ++ place') ↔ IsSeen place' := by
  constructor
  · rintro ⟨hnames, hdirectories⟩
    rw [List.dropLast_append_of_ne_nil hne] at hdirectories
    exact ⟨fun name hname => hnames name (List.mem_append_right _ hname),
      fun name hname => hdirectories name (List.mem_append_right _ hname)⟩
  · rintro ⟨hnames, hdirectories⟩
    refine ⟨fun name hname => ?_, fun name hname => ?_⟩
    · exact (List.mem_append.mp hname).elim (fun h => (hplace name h).1) (hnames name)
    · rw [List.dropLast_append_of_ne_nil hne] at hname
      exact (List.mem_append.mp hname).elim (fun h => (hplace name h).2) (hdirectories name)

theorem isLoaded_append (hget : root.get? place = some (directory es))
    (hplace : IsSeenDirectory place) : IsLoaded maxBytes root (place ++ place') text ↔
      IsLoaded maxBytes (directory es) place' text := by
  constructor
  · rintro ⟨hseen, hsmall, hvalid, hbytes⟩
    rw [bytes?_append hget] at hbytes
    have hne : place' ≠ [] := by
      rintro rfl
      cases hbytes
    exact ⟨(isSeen_append hplace hne).mp hseen, hsmall, hvalid, hbytes⟩
  · intro hloaded
    refine ⟨(isSeen_append hplace hloaded.ne_nil).mpr hloaded.seen, hloaded.small, hloaded.isUtf8, ?_⟩
    rw [bytes?_append hget, hloaded.bytes]

/-- What is loaded from the directory, in its places in the whole, is what is loaded below it. -/
theorem map_loadedFiles (h : root.IsTree) (hget : root.get? place = some (directory es))
    (hplace : IsSeenDirectory place) (maxBytes : Int) :
    ((directory es).loadedFiles maxBytes).map (fun f => (place ++ f.1, f.2)) =
      (root.loadedFiles maxBytes).filter fun f => place.isPrefixOf f.1 := by
  have hbelow := (h.of_get? hget).1
  refine eq_of_pairwise_of_mem_iff ?_ ((h.pairwise_loadedFiles _).filter _) ?_
  · rw [List.pairwise_map]
    exact (hbelow.pairwise_loadedFiles maxBytes).imp fun hlt => List.append_left_lt hlt
  · rintro ⟨place', text⟩
    rw [List.mem_map, List.mem_filter, h.mem_loadedFiles, List.isPrefixOf_iff_prefix]
    simp only [Prod.mk.injEq, Prod.exists, hbelow.mem_loadedFiles]
    constructor
    · rintro ⟨place', text, hloaded, rfl, rfl⟩
      exact ⟨(isLoaded_append hget hplace).mpr hloaded, List.prefix_append _ _⟩
    · rintro ⟨hloaded, place', rfl⟩
      exact ⟨place', text, (isLoaded_append hget hplace).mp hloaded, rfl, rfl⟩

/-- The path of a file starts with that of a directory only if its place does. -/
theorem entryBelow?_entryOf (hne : place' ≠ []) (hnames : ∀ name ∈ place, IsEntryName name)
    (hnames' : ∀ name ∈ place', IsEntryName name) (hbelow : ¬place.isPrefixOf place') :
    entryBelow? place (entryOf (place', text)) = none := by
  rw [entryBelow?, Option.map_eq_none_iff, Option.eq_none_iff_forall_ne_some]
  intro rest hrest
  have hpath : join "/" place' = join "/" (place ++ splitOn '/' rest) := by
    rw [join_append _ (splitOn_ne_nil _ _)]
    exact (eq_append_of_after? hrest).trans (congrArg _ (join_splitOn '/' rest).symm)
  have hplace : place' = place ++ splitOn '/' rest := by
    refine join_inj hne (List.append_ne_nil_of_right_ne_nil _ (splitOn_ne_nil _ _))
      (fun name hname => (hnames' name hname).noSlash) (fun name hname => ?_) hpath
    rcases List.mem_append.mp hname with hname | hname
    · exact (hnames name hname).noSlash
    · exact not_mem_of_mem_splitOn hname
  exact hbelow (List.isPrefixOf_iff_prefix.mpr ⟨_, hplace.symm⟩)

theorem entryBelow?_entryOf_append (place : List Text) (hne : place' ≠ []) (text : Text) :
    entryBelow? place (entryOf (place ++ place', text)) = some (entryOf (place', text)) := by
  rw [entryBelow?, entryOf, join_append _ hne, directoryPath, after?_append]
  rfl

/-- A directory that is seen is loaded as what the whole holds below it. -/
theorem IsTree.entries_below (h : (directory es).IsTree) {below : List (Text × Node)}
    (hget : (directory es).get? place = some (directory below)) (hplace : IsSeenDirectory place)
    (maxBytes : Int) : ((directory below).load maxBytes).entries =
      ((directory es).load maxBytes).entries.filterMap (entryBelow? place) := by
  obtain ⟨hbelow, hnames⟩ := h.of_get? hget
  have hwithin : ∀ f ∈ (directory below).loadedFiles maxBytes,
      entryBelow? place (entryOf (place ++ f.1, f.2)) = some (entryOf f) :=
    fun f hf => entryBelow?_entryOf_append place (hbelow.mem_loadedFiles.mp hf).ne_nil f.2
  have houtside : ∀ f ∈ (directory es).loadedFiles maxBytes,
      (if place.isPrefixOf f.1 then entryBelow? place (entryOf f) else none) =
        entryBelow? place (entryOf f) := by
    intro f hf
    have hloaded := h.mem_loadedFiles.mp hf
    split
    · rfl
    · next hnot =>
      exact (entryBelow?_entryOf hloaded.ne_nil hnames (hloaded.names h) hnot).symm
  calc ((directory below).load maxBytes).entries
      = ((directory below).loadedFiles maxBytes).filterMap
          fun f => entryBelow? place (entryOf (place ++ f.1, f.2)) := by
        rw [hbelow.entries_load, List.filterMap_congr hwithin, List.filterMap_eq_map']
    _ = (((directory below).loadedFiles maxBytes).map fun f => (place ++ f.1, f.2)).filterMap
          fun f => entryBelow? place (entryOf f) := by
        rw [List.filterMap_map]
        rfl
    _ = ((directory es).loadedFiles maxBytes).filterMap
          fun f => entryBelow? place (entryOf f) := by
        rw [map_loadedFiles h hget hplace, List.filterMap_filter, List.filterMap_congr houtside]
    _ = _ := by
        rw [h.entries_load, List.filterMap_map]
        rfl

end Below

/-- A directory tree is loaded as a snapshot that holds exactly the files that are seen, small enough
and text, by their paths. Files that are not loaded have no part in it, in its hash or in a document
made of it. A directory that is seen is loaded as what the whole holds below it, without the front of
each path. -/
theorem load_exact (h : (directory es).IsTree) (maxBytes : Int) :
    Snapshot.checkFiles ((directory es).load maxBytes) = .ok ((directory es).load maxBytes) ∧
      (∀ path text, ((directory es).load maxBytes).get? path = some text ↔
        ∃ place, path = Text.join "/" place ∧ IsLoaded maxBytes (directory es) place text) ∧
      (∀ other, other.IsTree → SameButIgnored maxBytes (directory es) other →
        other.load maxBytes = (directory es).load maxBytes ∧
          (other.load maxBytes).hash = ((directory es).load maxBytes).hash ∧
          ∀ mode options, Document.render (other.load maxBytes) mode options =
            Document.render ((directory es).load maxBytes) mode options) ∧
      ∀ place below, (directory es).get? place = some (directory below) → IsSeenDirectory place →
        ((directory below).load maxBytes).entries =
          ((directory es).load maxBytes).entries.filterMap (entryBelow? place) := by
  refine ⟨FileSet.checkFiles_eq_ok_iff.mpr (h.legal_load maxBytes), fun path text => h.get?_load,
    fun other hother hsame => ?_, fun place below hget hplace => h.entries_below hget hplace maxBytes⟩
  have hload : other.load maxBytes = (directory es).load maxBytes := by
    rw [load, load, loadedFiles_eq_of_sameButIgnored h hother hsame]
  exact ⟨hload, by rw [hload], fun mode options => by rw [hload]⟩

/-- A hidden entry may be set to anything. -/
theorem sameButIgnored_setEntry (maxBytes : Int) (name : Text) (es : List (Text × Node)) (node : Node)
    (hname : name.head? = some (ofChar '.')) :
    SameButIgnored maxBytes (directory es) (directory (setEntry name node es)) := by
  intro place bytes hseen
  cases place with
  | nil => rfl
  | cons first place =>
    rw [bytes?_setEntry]
    split
    · next hfirst =>
      refine absurd (IsIgnored.unseen fun h => ?_) hseen
      exact h.names first List.mem_cons_self (hfirst ▸ hname)
    · rfl

/-- Sources with a build result and a picture. -/
def sampleSources : List (Text × Node) :=
  [("dist", directory [("b.js", file [0x78])]), ("c.js", file [0x78, 0x0D, 0x0A]),
    ("d.png", file [0x89])]

/-- The sources beside a file that is named like a build result, and what is hidden. -/
def sampleProject (hidden : Node) : List (Text × Node) :=
  [("dist", file [0x6F, 0x6B]), ("src", directory sampleSources), (".env", hidden)]

theorem isTree_sampleProject {hidden : Node} (h : hidden.IsTree) :
    (directory (sampleProject hidden)).IsTree := by
  have hbuild : (directory [("b.js", file [0x78])]).IsTree :=
    .branch (by decide) (by decide) (by simpa using .leaf _)
  have hsources : (directory sampleSources).IsTree := by
    refine .branch (by decide) (by decide) ?_
    simp only [sampleSources, List.forall_mem_cons]
    exact ⟨hbuild, .leaf _, .leaf _, by simp⟩
  have hnames : ∀ name ∈ (["dist", "src", ".env"] : List String).map ofString,
      IsEntryName name := by decide
  have hdistinct : ((["dist", "src", ".env"] : List String).map ofString).Nodup := by decide
  refine .branch (fun e he => hnames e.1 (List.mem_map_of_mem he)) hdistinct ?_
  simp only [sampleProject, List.forall_mem_cons]
  exact ⟨.leaf _, hsources, h, by simp⟩

theorem load_exact_sampleProject :
    (directory (sampleProject empty)).IsTree ∧
      ((directory (sampleProject empty)).load 3).get? "src/c.js" = some "x\r\n" ∧
      (directory (sampleProject (file [0x41]))).load 3 =
        (directory (sampleProject empty)).load 3 ∧
      ((directory sampleSources).load 3).entries =
        ((directory (sampleProject empty)).load 3).entries.filterMap (entryBelow? ["src"]) := by
  have hempty : (directory (sampleProject empty)).IsTree :=
    isTree_sampleProject (.branch (by simp) (by simp) (by simp))
  obtain ⟨-, hentries, hignored, hbelow⟩ := load_exact hempty 3
  have hloaded : IsLoaded 3 (directory (sampleProject empty)) ["src", "c.js"] "x\r\n" :=
    ⟨by decide, by decide, by decide, by decide⟩
  have hsame : SameButIgnored 3 (directory (sampleProject empty))
      (directory (sampleProject (file [0x41]))) :=
    sameButIgnored_setEntry 3 ".env" (sampleProject empty) (file [0x41]) (by decide)
  have hseen : IsSeenDirectory ["src"] := fun name hname => by
    obtain rfl : name = "src" := List.mem_singleton.mp hname
    decide
  exact ⟨hempty, (hentries _ _).mpr ⟨_, rfl, hloaded⟩,
    (hignored _ (isTree_sampleProject (.leaf _)) hsame).1,
    hbelow ["src"] sampleSources rfl hseen⟩

end SitePreview.Node
