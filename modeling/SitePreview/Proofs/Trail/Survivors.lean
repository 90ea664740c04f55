import SitePreview.Proofs.Project.StoreCalls
import SitePreview.Proofs.Trail.AppendOrder
import Mathlib.Data.List.Induction

/-! What a run of store calls leaves of the version records, read off its answers: an append that
succeeds adds the record it is answered with, and a removal that succeeds takes away those of its
project. The table holds exactly these records, in this order. -/

namespace SitePreview

/-- A record as it is read again: lists are kept with their texts escaped, and a time as the clock
shows it. -/
def VersionRecord.kept (v : VersionRecord) : VersionRecord :=
  { v with
    changedFiles := v.changedFiles.map Text.joinSurrogates
    removedFiles := v.removedFiles.map Text.joinSurrogates
    createdAt := v.createdAt.asUtc }

namespace StoreCall

/-- The records that are left behind a call with this answer, the oldest first. -/
def leaves (log : List VersionRecord) :
    (c : StoreCall) → Except StoreError c.Reply → List VersionRecord
  | .appendVersion _, .ok v => log ++ [VersionRecord.kept v]
  | .eraseVersions p, .ok _ => log.filter fun v => v.projectId ≠ p
  | _, _ => log

/-- The number that a call with this answer gives to a record. -/
def number? : (c : StoreCall) → Except StoreError c.Reply → Option Int
  | .appendVersion _, .ok v => VersionRecord.id v
  | _, _ => none

@[simp] theorem leaves_error (log : List VersionRecord) (c : StoreCall) (e : StoreError) :
    c.leaves log (.error e) = log := by
  cases c <;> rfl

@[simp] theorem number?_error (c : StoreCall) (e : StoreError) : c.number? (.error e) = none := by
  cases c <;> rfl

end StoreCall

namespace Database

variable {db : Database} {c : StoreCall}

theorem encodeError?_eq_none_iff : encodeError? c = none ↔ c.Plain := by
  simp only [encodeError?, List.findSome?_eq_none_iff, Text.encodeErrorFrom?_eq_none_iff]
  rfl

theorem perform_of_plain (ht : db.hasTables = true) (hc : c.Plain) (now : Timestamp) :
    db.perform now c = (.ok (db.apply now c).1, (db.apply now c).2) := by
  rw [perform, ht, encodeError?_eq_none hc]
  rfl

/-- A database with tables refuses a call for its texts alone, and is left as it was. -/
theorem exists_perform_of_not_plain (ht : db.hasTables = true) (hc : ¬c.Plain) (now : Timestamp) :
    ∃ x, db.perform now c = (.error (.notUtf8 x), db) := by
  obtain ⟨x, hx⟩ := Option.ne_none_iff_exists'.mp (mt encodeError?_eq_none_iff.mp hc)
  exact ⟨x, by simp [perform, ht, hx]⟩

theorem perform_ok_iff (ht : db.hasTables = true) (now : Timestamp) :
    (∃ reply, (db.perform now c).1 = .ok reply) ↔ c.Plain := by
  by_cases hc : c.Plain
  · simp [perform_of_plain ht hc, hc]
  · obtain ⟨x, hx⟩ := exists_perform_of_not_plain ht hc now
    simp [hx, hc]

end Database

/-- A database and what its answers have told so far: the records that are left, the oldest first,
and the numbers that records were given, in the order in which they were. -/
structure Chronicle where
  database : Database := {}
  survivors : List VersionRecord := []
  numbers : List Int := []

namespace Chronicle

/-- What there is behind one more call. -/
def next (h : Chronicle) (now : Timestamp) (c : StoreCall) : Chronicle :=
  let (answer, db) := h.database.perform now c
  { database := db
    survivors := c.leaves h.survivors answer
    numbers := h.numbers ++ (c.number? answer).toList }

/-- What there is behind calls on a database that was empty, each at its time. -/
def after (calls : List (Timestamp × StoreCall)) : Chronicle :=
  calls.foldl (fun h x => h.next x.1 x.2) {}

variable {h : Chronicle} {now : Timestamp} {c : StoreCall} {r : VersionRecord} {project : Text}

theorem after_concat (calls : List (Timestamp × StoreCall)) (x : Timestamp × StoreCall) :
    after (calls ++ [x]) = (after calls).next x.1 x.2 := by
  rw [after, List.foldl_append]
  rfl

/-- The records that are left of a project, the oldest first. -/
def survivorsOf (h : Chronicle) (project : Text) : List VersionRecord :=
  h.survivors.filter fun v => v.projectId = project

/-- The numbers of the records that are left, the oldest first. -/
def held (h : Chronicle) : List (Option Int) := h.survivors.map VersionRecord.id

/-- The table holds the records that are left, each in the row that has its number, and the numbers
of the rows grow. Every number was given, and every project has a name that can be written. -/
structure Faithful (h : Chronicle) : Prop where
  tables : h.database.hasTables = true
  rows : h.database.versions.rows.map Prod.snd = h.survivors
  ids : ∀ row ∈ h.database.versions.rows, row.2.id = some (row.1 : Int)
  ascending : h.database.versions.Ascending
  given : ∀ n ∈ h.held, ∃ k ∈ h.numbers, n = some k
  written : ∀ v ∈ h.survivors, v.projectId.isUtf8 = true

theorem next_of_plain (ht : h.database.hasTables = true) (hc : c.Plain) :
    h.next now c =
      { database := (h.database.apply now c).2
        survivors := c.leaves h.survivors (.ok (h.database.apply now c).1)
        numbers := h.numbers ++ (c.number? (.ok (h.database.apply now c).1)).toList } := by
  rw [next, Database.perform_of_plain ht hc]

/-- A call that is refused leaves nothing behind. -/
theorem next_of_not_plain (ht : h.database.hasTables = true) (hc : ¬c.Plain) :
    h.next now c = h := by
  obtain ⟨x, hx⟩ := Database.exists_perform_of_not_plain ht hc now
  simp [next, hx]

/-- The record that an append adds, which has the next number of the table. -/
def added (h : Chronicle) (r : VersionRecord) : VersionRecord :=
  VersionTable.stored h.database.versions.nextId r

theorem next_append (ht : h.database.hasTables = true) (hc : (StoreCall.appendVersion r).Plain) :
    h.next now (.appendVersion r) =
      { database := { h.database with versions := h.database.versions.append r }
        survivors := h.survivors ++ [h.added r]
        numbers := h.numbers ++ [(h.database.versions.nextId : Int)] } :=
  next_of_plain ht hc

theorem next_erase (ht : h.database.hasTables = true)
    (hc : (StoreCall.eraseVersions project).Plain) :
    h.next now (.eraseVersions project) =
      { database := { h.database with versions := h.database.versions.erase project }
        survivors := h.survivors.filter fun v => v.projectId ≠ project
        numbers := h.numbers } := by
  rw [next_of_plain ht hc]
  exact congrArg (Chronicle.mk _ _) (List.append_nil _)

namespace Faithful

theorem append (hh : h.Faithful) (hc : (StoreCall.appendVersion r).Plain) :
    (h.next now (.appendVersion r)).Faithful := by
  rw [next_append hh.tables hc]
  refine ⟨hh.tables, ?rows, ?ids, hh.ascending.append r, ?given, ?written⟩
  case rows =>
    show (h.database.versions.rows ++ [_]).map Prod.snd = _
    rw [List.map_append, hh.rows]
    rfl
  case ids =>
    intro row hrow
    rcases List.mem_append.mp hrow with hrow | hrow
    · exact hh.ids row hrow
    · rw [List.mem_singleton.mp hrow]
      rfl
  case given =>
    intro n hn
    rw [held, List.map_append, List.mem_append] at hn
    rcases hn with hn | hn
    · obtain ⟨k, hk, rfl⟩ := hh.given n hn
      exact ⟨k, List.mem_append_left _ hk, rfl⟩
    · exact ⟨_, List.mem_append_right _ (List.mem_singleton_self _), List.mem_singleton.mp hn⟩
  case written =>
    intro v hv
    rcases List.mem_append.mp hv with hv | hv
    · exact hh.written v hv
    · rw [List.mem_singleton.mp hv]
      exact hc r.projectId (by simp [StoreCall.plainTexts])

theorem erase (hh : h.Faithful) (hc : (StoreCall.eraseVersions project).Plain) :
    (h.next now (.eraseVersions project)).Faithful := by
  rw [next_erase hh.tables hc]
  refine ⟨hh.tables, ?rows, ?ids, hh.ascending.erase project, ?given, ?written⟩
  case rows =>
    rw [← hh.rows, List.filter_map]
    rfl
  case ids => exact fun row hrow => hh.ids row (List.mem_of_mem_filter hrow)
  case given =>
    intro n hn
    obtain ⟨v, hv, rfl⟩ := List.mem_map.mp hn
    exact hh.given _ (List.mem_map_of_mem (List.mem_of_mem_filter hv))
  case written => exact fun v hv => hh.written v (List.mem_of_mem_filter hv)

/-- A call that does not change the versions keeps all of it. -/
theorem of_versions {h' : Chronicle} (hh : h.Faithful)
    (htables : h'.database.hasTables = h.database.hasTables)
    (hversions : h'.database.versions = h.database.versions)
    (hsurvivors : h'.survivors = h.survivors) (hnumbers : h'.numbers = h.numbers) :
    h'.Faithful where
  tables := htables ▸ hh.tables
  rows := by rw [hversions, hsurvivors, hh.rows]
  ids := hversions ▸ hh.ids
  ascending := hversions ▸ hh.ascending
  given := by
    rw [held, hsurvivors, hnumbers]
    exact hh.given
  written := hsurvivors ▸ hh.written

theorem next (hh : h.Faithful) (now : Timestamp) (c : StoreCall) : (h.next now c).Faithful := by
  by_cases hc : c.Plain
  · cases c with
    | appendVersion r => exact hh.append hc
    | eraseVersions p => exact hh.erase hc
    | listVersions | loadProject | saveProject | eraseProject =>
      rw [next_of_plain hh.tables hc]
      exact hh.of_versions rfl rfl rfl (List.append_nil _)
  · rw [next_of_not_plain hh.tables hc]
    exact hh

end Faithful

theorem faithful_empty : ({} : Chronicle).Faithful where
  tables := rfl
  rows := rfl
  ids := nofun
  ascending := .nil
  given := nofun
  written := nofun

theorem faithful_after (calls : List (Timestamp × StoreCall)) : (after calls).Faithful := by
  induction calls using List.reverseRecOn with
  | nil => exact faithful_empty
  | append_singleton calls x ih =>
    rw [after_concat]
    exact ih.next x.1 x.2

namespace Faithful

/-- The numbers that records hold are the numbers of their rows. -/
theorem held_eq (hh : h.Faithful) :
    h.held = h.database.versions.rows.map fun row => some (row.1 : Int) := by
  rw [held, ← hh.rows, List.map_map]
  exact List.map_congr_left hh.ids

/-- Records that are left hold numbers that grow from the oldest to the newest. -/
theorem held_growing (hh : h.Faithful) :
    h.held.Pairwise fun a b => ∃ m ∈ a, ∃ n ∈ b, m < n := by
  rw [hh.held_eq, List.pairwise_map]
  exact (List.pairwise_map.mp hh.ascending).imp fun hlt =>
    ⟨_, rfl, _, rfl, Int.ofNat_lt.mpr hlt⟩

/-- The records of a page are those that are left of the project, from the newest on. -/
theorem recent_eq (hh : h.Faithful) (project : Text) {n : Int} (hn : 0 ≤ n) :
    h.database.versions.recent project n = (h.survivorsOf project).reverse.take n.toNat := by
  rw [VersionTable.recent, if_neg (Int.not_lt.mpr hn),
    VersionTable.newestFirst_eq_reverse hh.ascending, List.map_take, List.map_reverse, survivorsOf,
    ← hh.rows, List.filter_map]
  rfl

/-- Nothing is left of a project whose name cannot be written, for nothing was ever added. -/
theorem survivorsOf_eq_nil (hh : h.Faithful) (hp : project.isUtf8 = false) : h.survivorsOf project = [] := by
  rw [survivorsOf, List.filter_eq_nil_iff]
  intro v hv hvp
  have hwritten := hh.written v hv
  rw [of_decide_eq_true hvp, hp] at hwritten
  exact Bool.false_ne_true hwritten

end Faithful

/-- A version of a project without files. -/
def demoVersion (project : Text) : VersionRecord where
  id := none
  projectId := project
  actorId := "u1"
  filesHash := "bebc10e4a5139463"
  changedFiles := []
  removedFiles := []
  message := none
  createdAt := { seconds := 0 }

/-- A call at the beginning of 1970. -/
def demoCall (c : StoreCall) : Timestamp × StoreCall := ({ seconds := 0 }, c)

end Chronicle

end SitePreview
