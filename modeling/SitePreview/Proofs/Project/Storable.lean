import SitePreview.Project.Operation
import SitePreview.Proofs.Project.StoreCalls
import SitePreview.Proofs.Snapshot.CanonicalForm

/-! Records that the store keeps as they are: their texts can be written in UTF-8, and their files
form a snapshot that has the hash of the record. What operations make of such records and of texts
from callers is such a record again. -/

namespace SitePreview

namespace Text

/-- Where there are no surrogates there are none to join. -/
theorem joinSurrogates_of_isUtf8 {t : Text} (h : t.isUtf8 = true) : joinSurrogates t = t := by
  fun_induction joinSurrogates t with
  | case1 => rfl
  | case2 c => rfl
  | case3 c d s p hp ih =>
    simp only [isUtf8_cons, Bool.and_eq_true, Bool.not_eq_true', CodePoint.isSurrogate,
      Bool.and_eq_false_iff, decide_eq_false_iff_not] at h
    have : pairOf? c d = none := by
      rw [pairOf?, if_neg]
      omega
    rw [this] at hp
    cases hp
  | case4 c d s hp ih =>
    rw [isUtf8_cons, Bool.and_eq_true] at h
    rw [ih h.2]

theorem map_joinSurrogates {ts : List Text} (h : ∀ t ∈ ts, t.isUtf8 = true) :
    ts.map joinSurrogates = ts :=
  (List.map_congr_left fun t ht => joinSurrogates_of_isUtf8 (h t ht)).trans (List.map_id ts)

end Text

theorem isUtf8_of_entryError? {p : Text} {c : Option Text} (h : entryError? p c = none) :
    p.isUtf8 = true ∧ ∀ t ∈ c, t.isUtf8 = true := by
  unfold entryError? at h
  split at h
  · cases h
  split at h
  · cases h
  split at h
  · cases h
  next hp =>
    refine ⟨by simpa using hp, fun t ht => ?_⟩
    cases ht
    simpa using h

namespace FileSet

variable {files : FileSet} {p c : Text}

/-- The files follow the rules of a snapshot. -/
def Legal (files : FileSet) : Prop := files.error? = none

instance (files : FileSet) : Decidable files.Legal := inferInstanceAs (Decidable (_ = _))

theorem legal_iff : files.Legal ↔ ∀ e ∈ files.entries, entryError? e.1 (some e.2) = none :=
  List.findSome?_eq_none_iff

theorem checkFiles_eq_ok_iff : Snapshot.checkFiles files = .ok files ↔ files.Legal := by
  rw [Snapshot.checkFiles, Legal]
  cases files.error? <;> simp

theorem Legal.isUtf8 (h : files.Legal) : files.IsUtf8 := fun e he =>
  have he := isUtf8_of_entryError? (legal_iff.mp h e he)
  ⟨he.1, he.2 _ rfl⟩

theorem mem_setEntry {e : Text × Text} {es : List (Text × Text)} (h : e ∈ setEntry p c es) :
    e = (p, c) ∨ e ∈ es := by
  induction es with
  | nil => exact .inl (List.mem_singleton.mp h)
  | cons d es ih =>
    obtain ⟨q, b⟩ := d
    rw [setEntry] at h
    split at h
    · next hq =>
      rcases List.mem_cons.mp h with h | h
      · exact .inl (hq ▸ h)
      · exact .inr (List.mem_cons_of_mem _ h)
    · rcases List.mem_cons.mp h with h | h
      · exact .inr (h ▸ List.mem_cons_self)
      · exact (ih h).imp_right (List.mem_cons_of_mem _)

theorem Legal.insert (h : files.Legal) (he : entryError? p (some c) = none) :
    (files.insert p c).Legal := by
  rw [legal_iff] at h ⊢
  intro e hm
  rcases mem_setEntry hm with rfl | hm
  · exact he
  · exact h e hm

theorem Legal.erase (h : files.Legal) (p : Text) : (files.erase p).Legal := by
  rw [legal_iff] at h ⊢
  exact fun e hm => h e (List.mem_of_mem_filter hm)

theorem setEntry_of_notMem {es : List (Text × Text)} (h : p ∉ es.map Prod.fst) :
    setEntry p c es = es ++ [(p, c)] := by
  induction es with
  | nil => rfl
  | cons e es ih =>
    rw [List.map_cons, List.mem_cons, not_or] at h
    rw [setEntry, if_neg fun k => h.1 k.symm, ih h.2, List.cons_append]

/-- Entries with distinct paths come in one after another. -/
theorem foldl_insert_entries (files : FileSet) (es : List (Text × Text))
    (h : ((files.entries ++ es).map Prod.fst).Nodup) :
    (es.foldl (fun files e => files.insert e.1 e.2) files).entries = files.entries ++ es := by
  induction es generalizing files with
  | nil => exact (List.append_nil _).symm
  | cons e es ih =>
    have he : e.1 ∉ files.entries.map Prod.fst := by
      rw [List.map_append, List.nodup_append] at h
      intro hm
      exact h.2.2 _ hm _ (List.mem_map_of_mem List.mem_cons_self) rfl
    have hi : (files.insert e.1 e.2).entries = files.entries ++ [e] := setEntry_of_notMem he
    rw [List.foldl_cons, ih _ (by rw [hi, List.append_assoc]; exact h), hi, List.append_assoc]
    rfl

theorem ofList_entries (files : FileSet) : ofList files.entries = files := by
  have h := foldl_insert_entries .empty files.entries files.nodup
  exact FileSet.mk.injEq .. ▸ h

end FileSet

namespace ProjectTable

variable {t : ProjectTable} {now : Timestamp} {r : ProjectRecord}

theorem projectId_of_get? {project : Text} (h : t.get? project = some r) : r.projectId = project := by
  simpa using List.find?_some h

/-- What holds of all rows holds of all behind a save, if it does of the row that is saved. -/
theorem forall_mem_save {p : ProjectRecord → Prop} (ht : ∀ row ∈ t.rows, p row)
    (hnew : p (newRow now r)) (hupdated : ∀ row, p (updatedRow now row r)) :
    ∀ row ∈ (t.save now r).rows, p row := by
  intro row hrow
  rw [save] at hrow
  split at hrow
  · exact List.forall_mem_append.mpr ⟨ht, List.forall_mem_singleton.mpr hnew⟩ row hrow
  · obtain ⟨old, hold, rfl⟩ := List.mem_map.mp hrow
    split
    · exact hupdated old
    · exact ht old hold

/-- Legal files come back from the store as they were saved. -/
theorem storedFiles_of_legal {files : FileSet} (h : files.Legal) :
    storedFiles files = files := by
  have he : files.entries.map (fun e => (Text.joinSurrogates e.1, Text.joinSurrogates e.2)) =
      files.entries := by
    refine (List.map_congr_left fun e he => ?_).trans (List.map_id _)
    rw [Text.joinSurrogates_of_isUtf8 (h.isUtf8 e he).1,
      Text.joinSurrogates_of_isUtf8 (h.isUtf8 e he).2]
    rfl
  exact (congrArg FileSet.ofList he).trans files.ofList_entries

end ProjectTable

namespace FileEdit

theorem apply_legal {files files' : FileSet} {e : FileEdit} (h : files.Legal)
    (he : (e.apply files).2 = some files') : files'.Legal := by
  unfold apply at he
  split at he
  · cases he
  next hentry =>
  split at he
  · split at he
    · cases he
    next c hc =>
      cases he
      exact h.insert (hc ▸ hentry)
  · split at he
    · cases he
    next c hc =>
      cases he
      exact h.insert (hc ▸ hentry)
  · split at he
    · cases he
    · cases he
      exact h.erase _
  · split at he <;> cases he

/-- Edits keep files legal, whatever paths and contents they bring. -/
theorem applyAll_legal {files files' : FileSet} {es : List FileEdit} (h : files.Legal)
    (he : (applyAll files es).2 = some files') : files'.Legal := by
  induction es generalizing files with
  | nil => cases he
  | cons e es ih =>
    have hstep : ((e.apply files).2.getD files).Legal := by
      cases hc : (e.apply files).2 with
      | none => exact h
      | some changed => exact apply_legal h hc
    rw [applyAll] at he
    cases hl : (applyAll ((e.apply files).2.getD files) es).2 with
    | none =>
      simp only [hl, Option.orElse_none] at he
      exact apply_legal h he
    | some later =>
      simp only [hl, Option.orElse_some, Option.some.injEq] at he
      subst he
      exact ih hstep hl

end FileEdit

namespace Given

/-- A text without surrogates is given. -/
def Written (g : Given) : Prop := ∃ t : Text, t.isUtf8 = true ∧ g = .text t

/-- A text without surrogates is given, or nothing. -/
def WrittenOrNothing (g : Given) : Prop :=
  ∃ t : Option Text, (∀ x ∈ t, x.isUtf8 = true) ∧ g = .ofText? t

end Given

namespace Checked

variable {t : Text}

section Accepted

variable {α β : Type}

theorem map_eq_ok {f : α → β} {c : Checked α} {b : β} :
    f <$> c = .ok b ↔ ∃ a, c = .ok a ∧ f a = b := by
  show apply (.ok f) c = .ok b ↔ _
  cases c with
  | ok a => simp [apply]
  | bad is => simp [apply]

theorem seq_eq_ok {f : Checked (α → β)} {c : Checked α} {b : β} :
    f <*> c = .ok b ↔ ∃ g a, f = .ok g ∧ c = .ok a ∧ g a = b := by
  show apply f c = .ok b ↔ _
  cases f with
  | bad is => simp [apply]
  | ok g =>
    cases c with
    | ok a => simp [apply]
    | bad is => simp [apply]

theorem forall_map {P : β → Prop} {f : α → β} {c : Checked α} :
    (∀ b, f <$> c = .ok b → P b) ↔ ∀ a, c = .ok a → P (f a) := by
  simp only [map_eq_ok]
  exact ⟨fun h a ha => h _ ⟨a, ha, rfl⟩, fun h b ⟨a, ha, hb⟩ => hb ▸ h a ha⟩

theorem forall_seq {P : β → Prop} {f : Checked (α → β)} {c : Checked α} :
    (∀ b, f <*> c = .ok b → P b) ↔ ∀ g, f = .ok g → ∀ a, c = .ok a → P (g a) := by
  simp only [seq_eq_ok]
  exact ⟨fun h g hg a ha => h _ ⟨g, a, hg, ha, rfl⟩, fun h b ⟨g, a, hg, ha, hb⟩ => hb ▸ h g hg a ha⟩

@[simp] theorem inside_eq_ok {place : Place} {c : Checked α} {a : α} :
    c.inside place = .ok a ↔ c = .ok a := by
  cases c <;> simp [inside]

theorem filledText_eq_ok {u : Text} :
    filledText (.string t) = .ok u ↔ t.isUtf8 = true ∧ t ≠ [] ∧ t = u := by
  rw [filledText]
  split
  · next h => simp_all [fail]
  · split
    · next h => simp [fail, h]
    · next h h' => simp_all

theorem filledGiven_eq_ok {g : Given} {u : Text} :
    filledGiven g = .ok u ↔ g = .text u ∧ u.isUtf8 = true ∧ u ≠ [] := by
  cases g with
  | text t =>
    rw [filledGiven, filledText_eq_ok]
    constructor
    · rintro ⟨hu, hne, rfl⟩
      exact ⟨rfl, hu, hne⟩
    · rintro ⟨hg, hu, hne⟩
      cases hg
      exact ⟨hu, hne, rfl⟩
  | nothing | other => simp [filledGiven, fail]

theorem given_eq_ok {g : Given} {u : Text} : given g = .ok u ↔ g = .text u := by
  cases g <;> simp [given, fail]

theorem given?_eq_ok {g : Given} {u : Option Text} : given? g = .ok u ↔ g = .ofText? u := by
  cases g with
  | nothing => cases u <;> simp [given?, Given.ofText?]
  | text t => cases u <;> simp [given?, given, Checked.map, Given.ofText?]
  | other => cases u <;> simp [given?, given, Checked.map, fail, Given.ofText?]

end Accepted

end Checked

namespace SyncResult

/-- The outcome can be kept by the store as it is. -/
structure Storable (d : SyncResult) : Prop where
  hash : d.hash.isUtf8 = true
  changed : ∀ t ∈ d.changedPaths, t.isUtf8 = true
  removed : ∀ t ∈ d.removedPaths, t.isUtf8 = true

/-- `d` is the outcome of replacing `old` by `new`, with a version record written. -/
structure Outcome (old : Option FileSet) (new : FileSet) (d : SyncResult) : Prop where
  eq : between old new = .ok d
  recorded : d.recorded = true
  hash : new.hash = .ok d.hash
  storable : d.Storable

/-- Replacing legal files by legal files has an outcome, which the store can keep. -/
theorem exists_outcome (old : Option FileSet) {new : FileSet} (hold : ∀ f ∈ old, f.Legal)
    (hnew : new.Legal) : ∃ d, Outcome old new d := by
  obtain ⟨hash, hh, hu⟩ := FileSet.hash_of_isUtf8 hnew.isUtf8
  have hold : (old.getD .empty).IsUtf8 := by
    cases old with
    | none => exact fun e he => nomatch he
    | some f => exact (hold f rfl).isUtf8
  refine ⟨⟨hash, _, _, true⟩, by rw [between, hh]; rfl, rfl, hh, hu, ?_, ?_⟩
  · intro t ht
    refine hnew.isUtf8.path ?_
    simp only [ChangeSet.between, Text.mem_sort, List.mem_append, List.mem_filter] at ht
    rcases ht with ht | ht <;> exact ht.1
  · intro t ht
    simp only [ChangeSet.between, Text.mem_sort, List.mem_filter] at ht
    exact hold.path ht.1

end SyncResult

namespace VersionRecord

variable {now : Timestamp} {project actor : Text} {message : Option Text} {d : SyncResult}

/-- The record of a change that `actor` asked for. -/
def ofChange (now : Timestamp) (project actor : Text) (d : SyncResult) (message : Option Text) :
    VersionRecord :=
  { id := none
    projectId := project
    actorId := actor
    filesHash := d.hash
    changedFiles := d.changedPaths
    removedFiles := d.removedPaths
    message := message
    createdAt := now }

/-- A version record is made of a project and an actor that have names which can be written, and of
a message that is a text if there is one. -/
theorem ofResult_eq_ok {actor message : Given} {v : VersionRecord} :
    ofResult now project actor d message = .ok v ↔
      (project.isUtf8 = true ∧ project ≠ []) ∧ ∃ a t, actor = .text a ∧ message = .ofText? t ∧
        (a.isUtf8 = true ∧ a ≠ []) ∧ v = ofChange now project a d t := by
  simp only [ofResult, Checked.seq_eq_ok, Checked.map_eq_ok, Checked.inside_eq_ok,
    Checked.filledText_eq_ok, Checked.filledGiven_eq_ok, Checked.given?_eq_ok]
  constructor
  · rintro ⟨_, t, ⟨_, a, ⟨_, ⟨hu, hne, rfl⟩, rfl⟩, ⟨rfl, hau, hane⟩, rfl⟩, rfl, rfl⟩
    exact ⟨⟨hu, hne⟩, a, t, rfl, rfl, ⟨hau, hane⟩, rfl⟩
  · rintro ⟨⟨hu, hne⟩, a, t, rfl, rfl, ⟨hau, hane⟩, rfl⟩
    exact ⟨_, t, ⟨_, a, ⟨_, ⟨hu, hne, rfl⟩, rfl⟩, ⟨rfl, hau, hane⟩, rfl⟩, rfl, rfl⟩

/-- A row shows the record of a change as it was made, with its number and its time in UTC. -/
theorem stored_ofChange (id : Nat) (hd : d.Storable) :
    VersionTable.stored id (ofChange now project actor d message) =
      { ofChange now.asUtc project actor d message with id := some id } := by
  rw [VersionTable.stored, ofChange, Text.map_joinSurrogates hd.changed,
    Text.map_joinSurrogates hd.removed]
  rfl

theorem plain_appendVersion (hpu : project.isUtf8 = true) (hau : actor.isUtf8 = true)
    (hm : ∀ t ∈ message, t.isUtf8 = true) (hd : d.Storable) :
    (StoreCall.appendVersion (ofChange now project actor d message)).Plain := by
  intro t ht
  simp only [StoreCall.plainTexts, ofChange, List.cons_append, List.nil_append, List.mem_cons,
    Option.mem_toList] at ht
  rcases ht with rfl | rfl | rfl | ht
  · exact hpu
  · exact hau
  · exact hd.hash
  · exact hm t ht

end VersionRecord

namespace ProjectRecord

variable {now : Timestamp} {project owner name hash : Text} {template : Option Text}
  {files : FileSet}

/-- The texts of the record can be written, its files are legal, and it has their hash. -/
structure Storable (r : ProjectRecord) : Prop where
  project : r.projectId.isUtf8 = true
  owner : r.ownerId.isUtf8 = true
  name : r.name.isUtf8 = true
  template : ∀ t ∈ r.template, t.isUtf8 = true
  files : r.files.Legal
  hash : r.files.hash = .ok r.filesHash

theorem isUtf8_filesHash {r : ProjectRecord} (hfiles : r.files.Legal)
    (hhash : r.files.hash = .ok r.filesHash) : r.filesHash.isUtf8 = true := by
  obtain ⟨hash, hh, hu⟩ := FileSet.hash_of_isUtf8 hfiles.isUtf8
  have hash_eq : hash = r.filesHash := Except.ok.inj (hh.symm.trans hhash)
  exact hash_eq ▸ hu

theorem plain_saveProject {r : ProjectRecord} (h : r.Storable) :
    (StoreCall.saveProject r).Plain := by
  intro t ht
  simp only [StoreCall.plainTexts, List.mem_append, List.mem_cons, List.not_mem_nil, or_false,
    Option.mem_toList] at ht
  rcases ht with ((rfl | rfl | rfl) | ht) | rfl
  · exact h.project
  · exact h.owner
  · exact h.name
  · exact h.template t ht
  · exact isUtf8_filesHash h.files h.hash

/-- The record of a new project. -/
def ofTexts (now : Timestamp) (project owner name : Text) (template : Option Text)
    (files : FileSet) (hash : Text) : ProjectRecord :=
  { projectId := project
    ownerId := owner
    name := name
    template := template
    files := files
    filesHash := hash
    createdAt := now
    updatedAt := now }

/-- A new record is made of a project and an owner that have names which can be written, and of a
name and a template that are texts. -/
theorem new_eq_ok {owner name template : Given} {r : ProjectRecord} :
    new now project owner name template files hash = .ok r ↔
      (project.isUtf8 = true ∧ project ≠ []) ∧ ∃ o n t, owner = .text o ∧ name = .text n ∧
        template = .ofText? t ∧ (o.isUtf8 = true ∧ o ≠ []) ∧
        r = ofTexts now project o n t files hash := by
  simp only [new, Checked.seq_eq_ok, Checked.map_eq_ok, Checked.inside_eq_ok,
    Checked.filledText_eq_ok, Checked.filledGiven_eq_ok, Checked.given_eq_ok, Checked.given?_eq_ok]
  constructor
  · rintro
      ⟨_, t, ⟨_, n, ⟨_, o, ⟨_, ⟨hu, hne, rfl⟩, rfl⟩, ⟨rfl, hou, hone⟩, rfl⟩, rfl, rfl⟩, rfl, rfl⟩
    exact ⟨⟨hu, hne⟩, o, n, t, rfl, rfl, rfl, ⟨hou, hone⟩, rfl⟩
  · rintro ⟨⟨hu, hne⟩, o, n, t, rfl, rfl, rfl, ⟨hou, hone⟩, rfl⟩
    exact
      ⟨_, t, ⟨_, n, ⟨_, o, ⟨_, ⟨hu, hne, rfl⟩, rfl⟩, ⟨rfl, hou, hone⟩, rfl⟩, rfl, rfl⟩, rfl, rfl⟩

end ProjectRecord

end SitePreview
