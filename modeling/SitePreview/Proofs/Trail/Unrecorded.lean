import SitePreview.Proofs.Project.Course

/-! Versions that are not recorded, for there is no store of versions or it is out of reach. Both
give the outcome that says so, except that a record is made for a store and so has to be one that
can be made: without a store nobody asks who acts, or on which project. -/

namespace SitePreview

/-- Every call is told that the store is out of reach. -/
def Backend.Down (b : Backend) : Prop := ∀ c, ∃ t, b.perform c = (.error (.unavailable t), b)

/-- A text that stands for something and can be written. -/
def Text.Filled (t : Text) : Prop := t ≠ [] ∧ t.isUtf8 = true

/-- A fault of all calls keeps them from the database. -/
theorem Backend.down_of_faults {b : Backend} (h : b.faults = fun _ => some .unavailable) :
    b.Down := by
  intro c
  refine ⟨faultMessage, ?_⟩
  rw [Backend.perform, h]
  rfl

namespace Ledger

open Routine

variable {s s' : ProjectSetup} {project actor : Text} {message : Option Text} {old : Option FileSet}
  {new : FileSet} {m m' : Memory} {b b' : Backend}

/-- The outcome of replacing `old` by `new` without a record. -/
def unrecorded (old : Option FileSet) (new : FileSet) : Except ProjectError SyncResult :=
  match SyncResult.between old new with
  | .error x => .error (.notUtf8 x)
  | .ok d => .ok { d with recorded := false }

theorem unrecorded_eq_error_iff :
    (∃ e, unrecorded old new = .error e) ↔ ∃ x, new.hash = .error x := by
  rw [unrecorded, SyncResult.between]
  cases new.hash with
  | error x => exact iff_of_true ⟨_, rfl⟩ ⟨x, rfl⟩
  | ok hash =>
    refine iff_of_false ?_ ?_
    · rintro ⟨e, he⟩
      cases he
    · rintro ⟨x, hx⟩
      cases hx

theorem recorded_of_unrecorded {d : SyncResult} (h : unrecorded old new = .ok d) :
    d.recorded = false := by
  rw [unrecorded] at h
  split at h
  · cases h
  · cases h
    rfl

/-- Without a store of versions, only files that have no hash are refused. -/
theorem run_append_of_no_store (hs : s.keepsVersions = false) (given said : Given) :
    (append s project given old new said).run m b = (unrecorded old new, m, b) := by
  rw [append, hs, unrecorded]
  cases SyncResult.between old new <;> rfl

/-- A record is made of texts exactly if project and actor are filled ones. -/
theorem exists_ofResult_iff (now : Timestamp) (d : SyncResult) (message : Option Text) :
    (∃ v, VersionRecord.ofResult now project (.text actor) d (.ofText? message) = .ok v) ↔
      project.Filled ∧ actor.Filled := by
  simp only [VersionRecord.ofResult_eq_ok]
  constructor
  · rintro ⟨v, ⟨hpu, hp⟩, a, t, ha, -, ⟨hau, hane⟩, -⟩
    cases ha
    exact ⟨⟨hp, hpu⟩, hane, hau⟩
  · rintro ⟨⟨hp, hpu⟩, hane, hau⟩
    exact ⟨_, ⟨hpu, hp⟩, actor, message, rfl, rfl, ⟨hau, hane⟩, rfl⟩

/-- What has a record is offered in vain to a store that is out of reach. -/
theorem run_append_of_down (hs : s.keepsVersions = true) (hb : b.Down) (hproject : project.Filled)
    (hactor : actor.Filled) :
    (append s project (.text actor) old new (.ofText? message)).run m b =
      (unrecorded old new, m, b) := by
  rw [append, hs, unrecorded]
  cases SyncResult.between old new with
  | error x => rfl
  | ok d =>
    obtain ⟨v, hv⟩ := (exists_ofResult_iff b.clock.now d message).mpr ⟨hproject, hactor⟩
    obtain ⟨t, ht⟩ := hb (.appendVersion v)
    simp only [run_written_bind, Bool.not_true, Bool.false_eq_true, if_false, run_clock_bind, hv,
      run_checked_bind, run_ask_bind, ht]
    rfl

/-- A record is made before it is offered, so what has none is refused. -/
theorem exists_run_append_of_unfilled (hs : s.keepsVersions = true)
    (hunfilled : ¬(project.Filled ∧ actor.Filled)) (old : Option FileSet) (new : FileSet)
    (message : Option Text) (m : Memory) (b : Backend) :
    ∃ e, (append s project (.text actor) old new (.ofText? message)).run m b =
      (.error e, m, b) := by
  rw [append, hs]
  cases SyncResult.between old new with
  | error x => exact ⟨_, rfl⟩
  | ok d =>
    simp only [run_written_bind, Bool.not_true, Bool.false_eq_true, if_false, run_clock_bind]
    cases hv : VersionRecord.ofResult b.clock.now project (.text actor) d (.ofText? message) with
    | ok v => exact absurd ((exists_ofResult_iff _ _ _).mp ⟨v, hv⟩) hunfilled
    | bad is => exact ⟨_, rfl⟩

/-- Two appends that record nothing come to the same: both have the same outcome, which says that
nothing was recorded, or both fail. -/
def SameOutcome (x y : Except ProjectError SyncResult) : Prop :=
  (∃ d, x = .ok d ∧ y = .ok d ∧ d.recorded = false) ∨ (∃ e, x = .error e) ∧ ∃ e, y = .error e

theorem sameOutcome_unrecorded : SameOutcome (unrecorded old new) (unrecorded old new) := by
  cases h : unrecorded old new with
  | error e => exact .inr ⟨⟨e, rfl⟩, e, rfl⟩
  | ok d => exact .inl ⟨d, rfl, rfl, recorded_of_unrecorded h⟩

theorem sameOutcome_error_iff {x : Except ProjectError SyncResult} {e : ProjectError} :
    SameOutcome x (.error e) ↔ ∃ e, x = .error e := by
  constructor
  · rintro (⟨_, -, herror, -⟩ | ⟨hx, -⟩)
    · cases herror
    · exact hx
  · exact fun hx => .inr ⟨hx, e, rfl⟩

/-- Without a store of versions, an append comes to the same as with one that is out of reach
exactly if the new files have no hash, or project and actor are filled texts. Neither of them
changes anything. -/
theorem sameOutcome_iff (hs : s.keepsVersions = false) (hs' : s'.keepsVersions = true)
    (hb' : b'.Down) (project actor : Text) (message : Option Text) (old : Option FileSet)
    (new : FileSet) (m m' : Memory) (b : Backend) :
    let missing := (append s project (.text actor) old new (.ofText? message)).run m b
    let failing := (append s' project (.text actor) old new (.ofText? message)).run m' b'
    (SameOutcome missing.1 failing.1 ↔
      (∃ x, new.hash = .error x) ∨ project.Filled ∧ actor.Filled) ∧
    missing.2 = (m, b) ∧ failing.2 = (m', b') := by
  dsimp only
  rw [run_append_of_no_store hs]
  by_cases hfilled : project.Filled ∧ actor.Filled
  · rw [run_append_of_down hs' hb' hfilled.1 hfilled.2]
    exact ⟨iff_of_true sameOutcome_unrecorded (.inr hfilled), rfl, rfl⟩
  · obtain ⟨e, he⟩ := exists_run_append_of_unfilled hs' hfilled old new message m' b'
    rw [he, sameOutcome_error_iff, unrecorded_eq_error_iff]
    exact ⟨(or_iff_left hfilled).symm, rfl, rfl⟩

/-- The shared state with a store that is out of reach. -/
def downBackend : Backend where
  faults := fun _ => some .unavailable
  clock := { now := { seconds := 0 } }

def freshBackend : Backend := { clock := { now := { seconds := 0 } } }

/-- A filled project and actor: the first file is not recorded either way. -/
theorem sameOutcome_draft :
    SameOutcome
      ((append { keepsVersions := false } "p1" (.text "u1") none (.ofList [("a.txt", "1")])
        (.ofText? none)).run {} freshBackend).1
      ((append {} "p1" (.text "u1") none (.ofList [("a.txt", "1")])
        (.ofText? none)).run {} downBackend).1 :=
  (sameOutcome_iff rfl rfl (Backend.down_of_faults rfl) "p1" "u1" none none
    (.ofList [("a.txt", "1")]) {} {} freshBackend).1.mpr (.inr ⟨⟨by decide, by decide⟩,
      by decide, by decide⟩)

/-- Nobody is asked for when there is no store, and a store that is out of reach refuses an actor
whose name is empty. -/
theorem outcomes_of_empty_actor :
    let missing := (append { keepsVersions := false } "p1" (.text []) none
      (.ofList [("a.txt", "1")]) (.ofText? none)).run {} freshBackend
    let failing := (append {} "p1" (.text []) none
      (.ofList [("a.txt", "1")]) (.ofText? none)).run {} downBackend
    downBackend.Down ∧
      missing.1 = .ok ⟨"3545eb2b0c2bb359", ["a.txt"], [], false⟩ ∧
      failing.1 = .error (.record .version [⟨[.name "actor_id"], .emptyText⟩]) ∧
      ¬SameOutcome missing.1 failing.1 := by
  have hmissing : ((append { keepsVersions := false } "p1" (.text []) none
      (.ofList [("a.txt", "1")]) (.ofText? none)).run {} freshBackend).1 =
      .ok ⟨"3545eb2b0c2bb359", ["a.txt"], [], false⟩ := by
    decide +kernel
  have hfailing : ((append {} "p1" (.text []) none
      (.ofList [("a.txt", "1")]) (.ofText? none)).run {} downBackend).1 =
      .error (.record .version [⟨[.name "actor_id"], .emptyText⟩]) := by
    decide +kernel
  refine ⟨Backend.down_of_faults rfl, hmissing, hfailing, ?_⟩
  rw [hmissing, hfailing, sameOutcome_error_iff]
  rintro ⟨e, he⟩
  cases he

end Ledger

end SitePreview
