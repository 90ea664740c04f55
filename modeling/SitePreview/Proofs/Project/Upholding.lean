import SitePreview.Proofs.Project.Storable

/-! What routines uphold, whatever the store answers and however they take turns with others: the
record that an actor remembers is intact, so is every record that is handed to the store, and no
text of such a record keeps its files from being hashed or measured. -/

namespace SitePreview

/-- The record is that of the project, its files follow the rules of a snapshot, and it has their
hash. The project and its owner have names that can be written. -/
structure ProjectRecord.Intact (project : Text) (r : ProjectRecord) : Prop where
  project : r.projectId = project
  entries : ∀ e ∈ r.files.entries, entryError? e.1 (some e.2) = none
  hash : r.files.hash = .ok r.filesHash
  named : r.projectId.isUtf8 = true
  owned : r.ownerId.isUtf8 = true

namespace ProjectRecord

variable {project : Text} {r : ProjectRecord}

theorem Intact.files (h : r.Intact project) : r.files.Legal := FileSet.legal_iff.mpr h.entries

theorem Intact.withFiles (h : r.Intact project) {files : FileSet} {hash : Text}
    (hfiles : files.Legal) (hhash : files.hash = .ok hash) (name : Text) (now : Timestamp) :
    { r with name := name, files := files, filesHash := hash, updatedAt := now }.Intact project :=
  ⟨h.project, FileSet.legal_iff.mp hfiles, hhash, h.named, h.owned⟩

theorem intact_of_new {now : Timestamp} {owner name template : Given} {files : FileSet}
    {hash : Text} (hnew : new now project owner name template files hash = .ok r)
    (hfiles : files.Legal) (hhash : files.hash = .ok hash) : r.Intact project := by
  obtain ⟨hproject, o, n, t, -, -, -, howner, rfl⟩ := new_eq_ok.mp hnew
  exact ⟨rfl, FileSet.legal_iff.mp hfiles, hhash, hproject.1, howner.1⟩

end ProjectRecord

/-- The actor of the project remembers an intact record if any. -/
def Memory.Intact (project : Text) (m : Memory) : Prop := ∀ r ∈ m.record, r.Intact project

theorem Memory.intact_of_none {project : Text} {m : Memory} (h : m.record = none) :
    m.Intact project := by
  simp [Intact, h]

/-- Every row of the table of projects is intact. -/
def Backend.Intact (b : Backend) : Prop :=
  ∀ r ∈ b.database.projects.rows, r.Intact r.projectId

namespace StoreCall

/-- A record that is handed to the store is intact, and one of the project; nothing of others is
erased. -/
def Respectful (project : Text) : StoreCall → Prop
  | saveProject r => r.Intact project
  | eraseProject p | eraseVersions p => p = project
  | _ => True

/-- A record that comes from the store is intact. -/
def Truthful : (c : StoreCall) → c.Reply → Prop
  | loadProject project => fun (record : Option ProjectRecord) => ∀ r ∈ record, r.Intact project
  | _ => fun _ => True

end StoreCall

namespace ProjectTable

variable {t : ProjectTable} {now : Timestamp} {r : ProjectRecord}

theorem intact_get? {project : Text} (ht : ∀ row ∈ t.rows, row.Intact row.projectId)
    (h : t.get? project = some r) : r.Intact project :=
  projectId_of_get? h ▸ ht r (List.mem_of_find?_eq_some h)

theorem intact_save (ht : ∀ row ∈ t.rows, row.Intact row.projectId) (hr : r.Intact r.projectId) :
    ∀ row ∈ (t.save now r).rows, row.Intact row.projectId := by
  have hfiles := storedFiles_of_legal hr.files
  refine forall_mem_save ht ?_ fun old => ?_
  · rw [newRow, hfiles]
    exact ⟨rfl, hr.entries, hr.hash, hr.named, hr.owned⟩
  · rw [updatedRow, hfiles]
    exact ⟨rfl, hr.entries, hr.hash, hr.named, hr.owned⟩

end ProjectTable

namespace Backend.Intact

variable {b : Backend} {c : StoreCall}

theorem apply (h : b.Intact) {project : Text} (hc : c.Respectful project) :
    (∀ r ∈ (b.database.apply b.clock.now c).2.projects.rows, r.Intact r.projectId) ∧
      c.Truthful (b.database.apply b.clock.now c).1 := by
  cases c with
  | saveProject r => exact ⟨ProjectTable.intact_save h (hc.project.symm ▸ hc), trivial⟩
  | loadProject p => exact ⟨h, fun r hr => ProjectTable.intact_get? h hr⟩
  | eraseProject p => exact ⟨fun r hr => h r (List.mem_of_mem_filter hr), trivial⟩
  | appendVersion | listVersions | eraseVersions => exact ⟨h, trivial⟩

/-- Whatever comes of a respectful call, the store stays intact, and its reply is truthful. -/
theorem perform (h : b.Intact) {project : Text} (hc : c.Respectful project) :
    (b.perform c).2.Intact ∧ ∀ reply, (b.perform c).1 = .ok reply → c.Truthful reply := by
  cases hf : b.faults c.method with
  | some kind => exact ⟨by simpa [Backend.perform, hf] using h, by simp [Backend.perform, hf]⟩
  | none =>
    cases ht : b.database.hasTables with
    | false =>
      simp only [Backend.perform, hf, Database.perform, ht, Bool.not_false, if_true]
      refine ⟨h, fun _ hreply => ?_⟩
      cases hreply
    | true =>
      cases he : Database.encodeError? c with
      | some e =>
        simp only [Backend.perform, hf, Database.perform, ht, he]
        refine ⟨h, fun _ hreply => ?_⟩
        cases hreply
      | none =>
        simp only [Backend.perform, hf, Database.perform, ht, he]
        refine ⟨(h.apply hc).1, fun reply hreply => ?_⟩
        cases hreply
        exact (h.apply hc).2

end Backend.Intact

namespace Routine

variable {α β : Type} {project : Text} {m : Memory} {b : Backend}

/-- From an intact memory and with truthful replies, the routine of a project remembers and hands
out intact records alone, no text ever fails to be written in UTF-8 by it, and its value is as
described. -/
def Upholds (project : Text) (post : α → Prop) : Routine α → Prop
  | done a => post a
  | fail e => ∀ x, e ≠ .notUtf8 x
  | call c next =>
    c.Respectful project ∧ ∀ reply, (∀ a, reply = .ok a → c.Truthful a) →
      (next reply).Upholds project post
  | look next => ∀ m c t, m.Intact project → (next m c t).Upholds project post
  | remember m next => m.Intact project ∧ next.Upholds project post
  | recache _ next => next.Upholds project post

theorem upholds_bind (r : Routine α) (f : α → Routine β) (post : β → Prop) :
    (r >>= f).Upholds project post ↔ r.Upholds project fun a => (f a).Upholds project post := by
  show (r.bind f).Upholds project post ↔ _
  induction r with
  | done a => exact .rfl
  | fail e => exact .rfl
  | call c next ih => exact and_congr .rfl (forall_congr' fun reply => forall_congr' fun _ => ih _)
  | look next ih => exact forall₄_congr fun m c t _ => ih m c t
  | remember m next ih => exact and_congr .rfl ih
  | recache c next ih => exact ih

@[simp] theorem upholds_pure_bind (a : α) (f : α → Routine β) (post : β → Prop) :
    (pure a >>= f).Upholds project post ↔ (f a).Upholds project post := .rfl

@[simp] theorem upholds_setCache_bind (c : Option (Cache Cached)) (f : Unit → Routine β)
    (post : β → Prop) :
    (setCache c >>= f).Upholds project post ↔ (f ()).Upholds project post := .rfl

theorem Upholds.mono {r : Routine α} {post post' : α → Prop} (h : r.Upholds project post)
    (hpost : ∀ a, post a → post' a) : r.Upholds project post' := by
  induction r with
  | done a => exact hpost a h
  | fail e => exact h
  | call c next ih => exact ⟨h.1, fun reply hreply => ih reply (h.2 reply hreply)⟩
  | look next ih => exact fun m c t hm => ih m c t (h m c t hm)
  | remember m next ih => exact ⟨h.1, ih h.2⟩
  | recache c next ih => exact ih h

/-- Run to its end, the routine leaves memory and store intact, its value is as described, and it
did not fail at a text. -/
theorem Upholds.run {r : Routine α} {post : α → Prop} (h : r.Upholds project post)
    (hm : m.Intact project) (hb : b.Intact) :
    (r.run m b).2.1.Intact project ∧ (r.run m b).2.2.Intact ∧
      (∀ a, (r.run m b).1 = .ok a → post a) ∧ ∀ x, (r.run m b).1 ≠ .error (.notUtf8 x) := by
  induction r generalizing m b with
  | done a => exact ⟨hm, hb, fun _ ha => by cases ha; exact h, fun _ he => nomatch he⟩
  | fail e => exact ⟨hm, hb, fun _ ha => (nomatch ha), fun x he => h x (by cases he; rfl)⟩
  | call c next ih =>
    obtain ⟨hb', hreply⟩ := hb.perform h.1
    exact ih _ (h.2 _ hreply) hm hb'
  | look next ih => exact ih _ _ _ (h m _ _ hm) hm hb
  | remember m next ih => exact ih h.2 h.1 hb
  | recache c next ih => exact ih h hm hb

/-- Up to its next store call, the routine leaves memory and store intact. -/
theorem Upholds.settle {r : Routine α} {post : α → Prop} (h : r.Upholds project post)
    (hm : m.Intact project) (hb : b.Intact) :
    (r.settle m b).1.Upholds project post ∧ (r.settle m b).2.1.Intact project ∧
      (r.settle m b).2.2.Intact := by
  induction r generalizing m b with
  | done a => exact ⟨h, hm, hb⟩
  | fail e => exact ⟨h, hm, hb⟩
  | call c next ih => exact ⟨h, hm, hb⟩
  | look next ih => exact ih _ _ _ (h m _ _ hm) hm hb
  | remember m next ih => exact ih h.2 h.1 hb
  | recache c next ih => exact ih h hm hb

section Parts

variable {post : α → Prop}

theorem upholds_memory {post : Memory → Prop} (h : ∀ m, m.Intact project → post m) :
    memory.Upholds project post := fun m _ _ hm => h m hm

theorem upholds_cache {post : Option (Cache Cached) → Prop} (h : ∀ c, post c) :
    cache.Upholds project post := fun _ c _ _ => h c

theorem upholds_clock {post : Clock → Prop} (h : ∀ t, post t) : clock.Upholds project post :=
  fun _ _ t _ => h t

theorem upholds_fail {e : ProjectError} (h : ∀ x, e ≠ .notUtf8 x) :
    (fail e : Routine α).Upholds project post := h

theorem upholds_checked {kind : RecordKind} {c : Checked α} (h : ∀ a, c = .ok a → post a) :
    (checked kind c).Upholds project post := by
  cases c with
  | ok a => exact h a rfl
  | bad is => exact upholds_fail (by simp)

theorem upholds_askOr {c : StoreCall} {whenOut : c.Reply} {post : c.Reply → Prop}
    (hc : c.Respectful project) (h : ∀ reply, post reply) :
    (askOr c whenOut).Upholds project post := by
  refine ⟨hc, fun reply _ => ?_⟩
  cases reply with
  | ok reply => exact h reply
  | error e =>
    dsimp only
    split
    · exact h whenOut
    · exact upholds_fail (by simp)

end Parts

end Routine

end SitePreview
