import SitePreview.Project.Operation
import SitePreview.Proofs.Trail.Survivors

/-! Pages of history show what is left of a project, from the newest record on: as many records as
there are, or as the page may be long. -/

namespace SitePreview

namespace HistoryLimits

variable {l : HistoryLimits}

theorem one_le_effective (l : HistoryLimits) (asked : Option PageLength) :
    1 ≤ l.effective asked :=
  Int.le_max_left _ _

/-- The length of a page for a whole number, or for none. -/
theorem effective_whole (l : HistoryLimits) (limit : Option Int) :
    l.effective (limit.map fun n => { length := n }) =
      max 1 (min (limit.getD l.ofDefault) (max 1 l.ofMaximum)) := by
  cases limit with
  | some n => rfl
  | none =>
    -- the default is kept within the bounds twice
    show max 1 (min (max 1 (min l.ofDefault (max 1 l.ofMaximum))) (max 1 l.ofMaximum)) =
      max 1 (min l.ofDefault (max 1 l.ofMaximum))
    omega

/-- A whole number never keeps a page from being cut. -/
theorem canCut_whole (l : HistoryLimits) (limit : Option Int) :
    (limit.map fun n => ({ length := n } : PageLength)).all l.canCut = true := by
  cases limit <;> rfl

end HistoryLimits

namespace Chronicle

open Routine

variable {h : Chronicle} {s : ProjectSetup} {m : Memory} {b : Backend} {project : Text}

section Serving

variable (hh : h.Faithful) (hs : s.keepsVersions = true) (hdatabase : b.database = h.database)
  (hfault : b.faults .listVersions = none)

include hh hs hdatabase hfault

/-- A page is what the store gives of the records that are left. -/
theorem run_page_of_written (hpu : project.isUtf8 = true) (limit : Option Int) :
    (Ledger.page s project (limit.map fun n => { length := n })).run m b =
      (.ok ⟨(h.survivorsOf project).reverse.take
        (max 1 (min (limit.getD s.limits.ofDefault) (max 1 s.limits.ofMaximum))).toNat, true⟩,
        m, b) := by
  have hreaches : b.reaches .listVersions = true := by
    rw [Backend.reaches, hfault, hdatabase, hh.tables]
    rfl
  rw [← s.limits.effective_whole limit]
  generalize hlength : s.limits.effective (limit.map fun n => { length := n }) = length
  have hpos : 0 ≤ length := by
    have := s.limits.one_le_effective (limit.map fun n => { length := n })
    omega
  have hcall := Backend.perform_of_reaches (c := .listVersions project length) hreaches
    (StoreCall.plain_of_texts rfl hpu)
  rw [Ledger.page, hs, hlength]
  simp only [Bool.not_true, Bool.false_eq_true, if_false, run_ask_bind, hcall, Database.apply,
    s.limits.canCut_whole limit, if_true, hdatabase, hh.recent_eq project hpos, List.take_take,
    Nat.min_self]
  rfl

/-- The store cannot be asked for a project whose name cannot be written. -/
theorem exists_run_page_of_unwritten (hpu : project.isUtf8 = false) (limit : Option PageLength) :
    ∃ x, (Ledger.page s project limit).run m b = (.error (.store (.notUtf8 x)), m, b) := by
  have hplain : ¬(StoreCall.listVersions project (s.limits.effective limit)).Plain := fun hplain =>
    Bool.false_ne_true (hpu.symm.trans (hplain project (List.mem_singleton_self _)))
  have htables : b.database.hasTables = true := hdatabase ▸ hh.tables
  obtain ⟨x, hx⟩ := Database.exists_perform_of_not_plain htables hplain b.clock.now
  have hcall : b.perform (.listVersions project (s.limits.effective limit)) =
      (.error (.notUtf8 x), b) := by
    rw [Backend.perform]
    simp only [StoreCall.method, hfault, hx]
  refine ⟨x, ?_⟩
  rw [Ledger.page, hs]
  simp [run_ask_bind, hcall, StoreError.isOutage]

/-- A page that is shown has the records that are left, whatever the name of the project is. -/
theorem versions_eq_of_run_page {limit : Option Int} {shown : History}
    (hshown : ((Ledger.page s project (limit.map fun n => { length := n })).run m b).1 =
      .ok shown) :
    shown.versions = (h.survivorsOf project).reverse.take
      (max 1 (min (limit.getD s.limits.ofDefault) (max 1 s.limits.ofMaximum))).toNat := by
  cases hpu : project.isUtf8 with
  | true =>
    rw [run_page_of_written hh hs hdatabase hfault hpu] at hshown
    cases hshown
    rfl
  | false =>
    obtain ⟨x, hx⟩ := exists_run_page_of_unwritten (m := m) hh hs hdatabase hfault hpu
      (limit.map fun n => { length := n })
    rw [hx] at hshown
    cases hshown

end Serving

/-- Two projects take numbers in turn, and the one with the largest number is removed. -/
def sharedCalls : List (Timestamp × StoreCall) :=
  [demoCall (.appendVersion (demoVersion "p1")), demoCall (.appendVersion (demoVersion "p1")),
    demoCall (.appendVersion (demoVersion "p2")), demoCall (.eraseVersions "p2"),
    demoCall (.appendVersion (demoVersion "p1"))]

def sharedBackend : Backend where
  database := (after sharedCalls).database
  clock := { now := { seconds := 0 } }

end Chronicle

end SitePreview
