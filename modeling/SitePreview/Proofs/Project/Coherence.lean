import SitePreview.Proofs.Project.Serving

/-! Coherence of summaries. A summary is answered from the cache, without a look at the record. It
is that of the files that a snapshot shows as long as nothing but an accepted operation on the
project changes what a snapshot shows while a summary is cached. -/

namespace SitePreview

/-- The summary of the files of an answer. -/
def Answer.summarized : Answer → Answer
  | files f => .summary f.summary
  | answer => answer

namespace Backend

variable {project other : Text} {a b : Backend}

theorem load_congr (hfaults : b.faults = a.faults)
    (htables : b.database.hasTables = a.database.hasTables)
    (hrow : b.database.projects.get? project = a.database.projects.get? project) :
    (b.perform (.loadProject project)).1 = (a.perform (.loadProject project)).1 := by
  simp only [perform, hfaults, Database.perform, htables, Database.apply, hrow]
  split
  · rfl
  split
  · rfl
  split <;> rfl

theorem Frames.load_eq (h : a.Frames project b) (hother : other ≠ project) :
    (b.perform (.loadProject other)).1 = (a.perform (.loadProject other)).1 :=
  load_congr h.faults h.tables (h.others other hother)

theorem Fades.load_eq (h : a.Fades b) :
    (b.perform (.loadProject project)).1 = (a.perform (.loadProject project)).1 := by
  rw [h.only]
  exact load_congr rfl rfl rfl

end Backend

namespace Operation

open Routine

variable {s : ProjectSetup} {project : Text} {m : Memory} {a b : Backend}

/-- What a snapshot answers. -/
def snapshotBy (s : ProjectSetup) (project : Text) (m : Memory) (b : Backend) :
    Except ProjectError Answer :=
  ((snapshot.routine s project).run m b).1

theorem snapshotBy_eq (s : ProjectSetup) (project : Text) (m : Memory) (b : Backend) :
    snapshotBy s project m b = match (ensureLoaded s project).run m b with
      | (.ok _, m', _) => (m'.record.map fun r => .ok (.files r.files)).getD
        (.error (.notFound project))
      | (.error e, _, _) => .error e := by
  rw [snapshotBy, routine, run_bind, current, run_bind]
  rcases (ensureLoaded s project).run m b with ⟨e | u, m', b'⟩
  · rfl
  · dsimp only
    rw [require, run_memory_bind]
    cases m'.record <;> rfl

theorem snapshotBy_of_loaded {r : ProjectRecord} (hm : m.loaded = true) (hr : m.record = some r) :
    snapshotBy s project m b = .ok (.files r.files) := by
  have hload : (ensureLoaded s project).run m b = (.ok (), m, b) := by
    rw [ensureLoaded, run_memory_bind, if_pos hm]
    rfl
  rw [snapshotBy_eq, hload]
  dsimp only
  rw [hr]
  rfl

/-- A snapshot that shows files shows those of the record that the actor is told of. -/
theorem record_of_snapshotBy {f : FileSet} (h : snapshotBy s project m b = .ok (.files f)) :
    ∃ r, (m.asked s project b).record = some r ∧ r.files = f := by
  rw [snapshotBy_eq] at h
  rcases run_ensureLoaded_cases s project m b with hload | ⟨-, -, e, hload⟩
  · rw [hload] at h
    cases hr : (m.asked s project b).record with
    | none =>
      simp only [hr] at h
      cases h
    | some r =>
      simp only [hr] at h
      cases h
      exact ⟨r, rfl, rfl⟩
  · rw [hload] at h
    cases h

/-- What a snapshot answers depends on nothing of the store but what it tells of the project. -/
theorem snapshotBy_congr
    (h : (b.perform (.loadProject project)).1 = (a.perform (.loadProject project)).1) :
    snapshotBy s project m b = snapshotBy s project m a := by
  have hsame : ((ensureLoaded s project).run m b).1 = ((ensureLoaded s project).run m a).1 ∧
      ((ensureLoaded s project).run m b).2.1 = ((ensureLoaded s project).run m a).2.1 := by
    rw [ensureLoaded, run_memory_bind, run_memory_bind]
    split
    · exact ⟨rfl, rfl⟩
    rw [run_setMemory_bind, run_setMemory_bind]
    split
    · exact ⟨rfl, rfl⟩
    rw [run_ask_bind, run_ask_bind, h]
    split
    · exact ⟨rfl, rfl⟩
    · split <;> exact ⟨rfl, rfl⟩
  rw [snapshotBy_eq, snapshotBy_eq]
  revert hsame
  rcases (ensureLoaded s project).run m b with ⟨o, m₁, b₁⟩
  rcases (ensureLoaded s project).run m a with ⟨o', m₂, b₂⟩
  rintro ⟨rfl, rfl⟩
  cases o <;> rfl

theorem run_freshSummary (hb : b.Roomy) :
    ((freshSummary s project).run m b).1 = (snapshotBy s project m b).map Answer.summarized := by
  rw [snapshotBy_eq, freshSummary, run_bind]
  rcases run_ensureLoaded_cases s project m b with hload | ⟨-, -, e, hload⟩
  · rw [run_current_of_load hload, hload]
    dsimp only
    cases (m.asked s project b).record with
    | none => rfl
    | some r =>
      dsimp only
      rw [run_bind_ok _ (run_refresh project r.files hb)]
      rfl
  · rw [current, run_bind_error _ hload, hload]
    rfl

/-- Every summary of the project that is cached is that of the files that a snapshot shows. -/
def Coherent (s : ProjectSetup) (project : Text) (m : Memory) (b : Backend) : Prop :=
  ∀ v, b.summaryOf? project = some v →
    ∃ f, snapshotBy s project m b = .ok (.files f) ∧ v = .summary f.summary

/-- A summary is that of the files that a snapshot shows, and fails as a snapshot does. -/
theorem Coherent.summary_eq (h : Coherent s project m b) (hb : b.Roomy) :
    ((summary.routine s project).run m b).1 = (snapshotBy s project m b).map Answer.summarized := by
  have hfades := b.fades_lookedUp project
  rw [routine, run_summarize_lookedUp]
  cases hknown : (b.lookedUp project).1 with
  | some known =>
    obtain ⟨f, hf, hv⟩ := h _ (Backend.summaryOf?_of_found hknown)
    cases hv
    rw [hf]
    rfl
  | none =>
    dsimp only
    rw [run_freshSummary (hfades.roomy hb)]
    exact congrArg _ (snapshotBy_congr hfades.load_eq)

theorem Coherent.of_snapshot {m' : Memory} {b' : Backend} (h : Coherent s project m b)
    (hsnapshot : snapshotBy s project m' b' = snapshotBy s project m b)
    (hsummary : ∀ v, b'.summaryOf? project = some v → b.summaryOf? project = some v) :
    Coherent s project m' b' := by
  intro v hv
  rw [hsnapshot]
  exact h v (hsummary v hv)

/-- An operation that is accepted leaves no summary behind but that of the files which a snapshot
shows then. -/
theorem Ending.coherent {op : Operation} {a : Answer} {m' : Memory} {b' : Backend}
    (h : Ending s project m b op (.ok a) m' b') (hroomy : b.Roomy)
    (hcoherent : Coherent s project m b) : Coherent s project m' b' := by
  have hasked := m.asked_loaded s project b
  have hrefreshed {b₁ : Backend} {r : ProjectRecord} {m' : Memory} (hm : m'.loaded = true)
      (hr : m'.record = some r) : Coherent s project m' (b₁.refreshed project r.files) := by
    intro v hv
    have hv := Backend.summaryOf?_of_refreshed hv
    rw [if_pos rfl] at hv
    exact ⟨r.files, snapshotBy_of_loaded hm hr, hv⟩
  cases h with
  | kept => exact hcoherent
  | known _ hb => exact hcoherent.of_snapshot (snapshotBy_congr hb.load_eq) (hb.summaries project)
  | answered =>
    intro v hv
    obtain ⟨f, hf, rfl⟩ := hcoherent v hv
    obtain ⟨r, hr, rfl⟩ := record_of_snapshotBy hf
    exact ⟨r.files, snapshotBy_of_loaded hasked hr, rfl⟩
  | committed _ _ _ _ hcache =>
    rcases hcache hroomy with ⟨-, rfl⟩ | ⟨⟨e, he⟩, -⟩
    · exact hrefreshed hasked rfl
    · cases he
  | summarised hr _ hcache =>
    obtain ⟨-, rfl⟩ := hcache hroomy
    exact hrefreshed hasked hr
  | deleted =>
    intro v hv
    rw [Backend.summaryOf?_invalidated, if_pos rfl] at hv
    cases hv

/-- An operation that fails brings no summary into the cache. -/
theorem Ending.summaries_of_error {op : Operation} {e : ProjectError} {m' : Memory} {b' : Backend}
    (h : Ending s project m b op (.error e) m' b') (hroomy : b.Roomy) {v : Cached}
    (hv : b'.summaryOf? project = some v) : b.summaryOf? project = some v := by
  have hstores {b₁ : Backend} (hb : b.Stores project b₁) (hv : b₁.summaryOf? project = some v) :
      b.summaryOf? project = some v := by
    rw [Backend.summaryOf?, hb.cache] at hv
    exact hv
  cases h with
  | kept => exact hv
  | unheard _ _ hb | missing hb => exact hb.summaries project v hv
  | refused hb | undeleted hb => exact hstores hb hv
  | committed _ hb _ _ hcache =>
    rcases hcache hroomy with ⟨⟨_, he⟩, -⟩ | ⟨-, rfl⟩
    · cases he
    · exact hstores hb hv
  | summarised _ _ hcache => cases (hcache hroomy).1

end Operation

namespace Registry

variable {r : Registry} {project q : Text} {op : Operation} {x : Step}

def snapshotOf (r : Registry) (project : Text) : Outcome := (r.perform project .snapshot).1

/-- The step has to do with the project, or with what all projects share. -/
def Step.touches (project : Text) : Step → Bool
  | perform p _ | release p => p = project
  | start _ | setClock _ => false
  | closeActor _ | closeAll | setFaults _ => true

/-- The step is an operation on the project that is accepted. -/
def Accepts (project : Text) (r : Registry) : Step → Bool
  | .perform p op => p = project && (r.perform p op).1.toBool
  | _ => false

/-- The step changes what a snapshot of the project shows, while a summary of it is cached, and is
no operation on it that is accepted. -/
def Unsettles (project : Text) (r : Registry) (x : Step) : Prop :=
  x.touches project = true ∧ Accepts project r x = false ∧
    (r.backend.summaryOf? project).isSome = true ∧
    (r.step x).snapshotOf project ≠ r.snapshotOf project

instance (project : Text) (r : Registry) (x : Step) : Decidable (Unsettles project r x) :=
  inferInstanceAs (Decidable (_ ∧ _ ∧ _ ∧ _))

/-- The cached summaries of the project are those of the files that a snapshot shows. -/
structure Coherent (project : Text) (r : Registry) : Prop where
  intact : r.Intact
  roomy : r.backend.Roomy
  coherent : Operation.Coherent r.setup project (r.memoryOf project) r.backend

theorem Addressed.snapshotOf_eq (h : r.Addressed) (hp : project ≠ []) :
    r.snapshotOf project =
      Operation.snapshotBy r.setup project (r.memoryOf project) r.backend :=
  (h.perform_eq hp rfl rfl).1

theorem Coherent.summary_eq (h : Coherent project r) :
    (r.perform project .summary).1 = (r.snapshotOf project).map Answer.summarized := by
  by_cases hp : project = []
  · subst hp
    rfl
  · rw [h.intact.addressed.snapshotOf_eq hp, (h.intact.addressed.perform_eq hp rfl rfl).1]
    exact h.coherent.summary_eq h.roomy

/-- Coherence stays where a snapshot shows what it did and no summary comes in. -/
theorem Coherent.of_snapshot {r' : Registry} (h : Coherent project r) (hp : project ≠ [])
    (hr : r'.Intact) (hroomy : r'.backend.Roomy)
    (hsummary : ∀ v, r'.backend.summaryOf? project = some v →
      r.backend.summaryOf? project = some v)
    (hsnapshot : (r.backend.summaryOf? project).isSome = true →
      r'.snapshotOf project = r.snapshotOf project) : Coherent project r' := by
  refine ⟨hr, hroomy, fun v hv => ?_⟩
  have hv := hsummary v hv
  have hsame := hsnapshot (by rw [hv]; rfl)
  rw [hr.addressed.snapshotOf_eq hp, h.intact.addressed.snapshotOf_eq hp] at hsame
  rw [hsame]
  exact h.coherent v hv

/-- A step that does not unsettle, and is no accepted operation, leaves what a snapshot shows. -/
theorem snapshotOf_of_settled (hx : ¬Unsettles project r x) (htouches : x.touches project = true)
    (haccepts : Accepts project r x = false)
    (hcached : (r.backend.summaryOf? project).isSome = true) :
    (r.step x).snapshotOf project = r.snapshotOf project := by
  by_contra hne
  exact hx ⟨htouches, haccepts, hcached, hne⟩

theorem snapshotOf_congr {r' : Registry} (h : r.Addressed) (h' : r'.Addressed) (hp : project ≠ [])
    (hsetup : r'.setup = r.setup) (hm : r'.memoryOf project = r.memoryOf project)
    (hload : (r'.backend.perform (.loadProject project)).1 =
      (r.backend.perform (.loadProject project)).1) :
    r'.snapshotOf project = r.snapshotOf project := by
  rw [h'.snapshotOf_eq hp, h.snapshotOf_eq hp, hsetup, hm]
  exact Operation.snapshotBy_congr hload

theorem Coherent.perform (h : Coherent project r) (hp : project ≠ [])
    (hx : ¬Unsettles project r (.perform q op)) : Coherent project (r.perform q op).2 := by
  have hintact := (h.intact.perform q op).1
  by_cases hrejected : q = [] ∨ op.check ≠ .ok ()
  · obtain ⟨-, hsetup, hbackend, hm⟩ := h.intact.addressed.perform_of_rejected hrejected
    refine h.of_snapshot hp hintact (hbackend ▸ h.roomy) (fun v hv => hbackend ▸ hv) fun _ => ?_
    exact snapshotOf_congr h.intact.addressed hintact.addressed hp hsetup (hm project)
      (by rw [hbackend])
  rw [not_or, not_not] at hrejected
  obtain ⟨o, m, b, hending, ho, hsetup, hb, hm⟩ :=
    h.intact.perform_ending hrejected.1 hrejected.2
  have hconfines := hending.confines h.roomy
  by_cases hq : project = q
  · subst hq
    cases o with
    | ok a =>
      refine ⟨hintact, hb ▸ hconfines.roomy, ?_⟩
      rw [hsetup, hb, hm, if_pos rfl]
      exact hending.coherent h.roomy h.coherent
    | error e =>
      refine h.of_snapshot hp hintact (hb ▸ hconfines.roomy) (fun v hv => ?_) fun hcached => ?_
      · rw [hb] at hv
        exact hending.summaries_of_error h.roomy hv
      · refine snapshotOf_of_settled hx (by simp [Step.touches]) ?_ hcached
        rw [Accepts, ho]
        exact Bool.and_false _
  · refine h.of_snapshot hp hintact (hb ▸ hconfines.roomy) (fun v hv => ?_) fun _ => ?_
    · rw [hb] at hv
      exact hconfines.summaries project hq v hv
    · refine snapshotOf_congr h.intact.addressed hintact.addressed hp hsetup
        ((hm project).trans (if_neg hq)) ?_
      rw [hb]
      exact hconfines.toFrames.load_eq hq

theorem Coherent.step (h : Coherent project r) (hp : project ≠ []) (hx : ¬Unsettles project r x) :
    Coherent project (r.step x) := by
  have hintact := h.intact.step x
  -- what is neither an operation nor a change of the clock is settled, or leaves the snapshot
  have hrest (hbackend : (r.step x).backend.cache = r.backend.cache)
      (haccepts : Accepts project r x = false)
      (huntouched : x.touches project = false →
        (r.step x).snapshotOf project = r.snapshotOf project) : Coherent project (r.step x) := by
    refine h.of_snapshot hp hintact ?_ (fun v hv => ?_) fun hcached => ?_
    · rw [Backend.Roomy, hbackend]
      exact h.roomy
    · rw [Backend.summaryOf?, hbackend] at hv
      exact hv
    · cases ht : x.touches project with
      | true => exact snapshotOf_of_settled hx ht haccepts hcached
      | false => exact huntouched ht
  cases x with
  | perform q op => exact h.perform hp hx
  | start q =>
    obtain ⟨hsetup, hbackend, -⟩ := step_housekeeping (r := r) (x := .start q) rfl
    refine hrest (by rw [hbackend]) rfl fun _ => ?_
    exact snapshotOf_congr h.intact.addressed hintact.addressed hp hsetup
      (h.intact.addressed.memoryOf_start q project) (by rw [hbackend])
  | release q =>
    obtain ⟨hsetup, hbackend, -⟩ := step_housekeeping (r := r) (x := .release q) rfl
    refine hrest (by rw [hbackend]) rfl fun ht => ?_
    have hq : project ≠ q := by
      rintro rfl
      simp [Step.touches] at ht
    exact snapshotOf_congr h.intact.addressed hintact.addressed hp hsetup
      (h.intact.addressed.memoryOf_release_of_ne hq) (by rw [hbackend])
  | closeActor n => exact hrest rfl rfl fun ht => absurd ht.symm Bool.false_ne_true
  | closeAll =>
    obtain ⟨-, hbackend, -⟩ := step_housekeeping (r := r) (x := .closeAll) rfl
    exact hrest (by rw [hbackend]) rfl fun ht => absurd ht.symm Bool.false_ne_true
  | setFaults f => exact hrest rfl rfl fun ht => absurd ht.symm Bool.false_ne_true
  | setClock t =>
    refine hrest rfl rfl fun _ => ?_
    exact snapshotOf_congr h.intact.addressed hintact.addressed hp rfl rfl
      (Backend.load_congr rfl rfl rfl)

theorem coherent_opened (setup : ProjectSetup) {cache : Option (Cache Cached)} (clock : Clock)
    (project : Text) (hcache : ∀ c ∈ cache, 1 ≤ c.policy.capacity ∧ c.entries = []) :
    Coherent project (opened setup cache clock) where
  intact := intact_opened setup cache clock
  roomy c hc := (hcache c hc).1
  coherent v hv := by
    rw [summaryOf?_opened setup clock (fun c hc => (hcache c hc).2)] at hv
    cases hv

/-- In every state of a session that starts with a new cache, a summary is that of the files that a
snapshot shows at this moment, and fails as a snapshot does, whatever the texts, the faults of the
store, the lifetime of entries and the room in the cache: unless a step changed what a snapshot
showed while a summary was cached, and was no accepted operation on the project. -/
theorem summary_eq_of_settled {setup : ProjectSetup} {cache : Option (Cache Cached)}
    {clock : Clock} (hcache : ∀ c ∈ cache, 1 ≤ c.policy.capacity ∧ c.entries = [])
    {steps : List Step} (project : Text)
    (hsteps : Throughout Registry.step (fun r x => ¬Unsettles project r x)
      (opened setup cache clock) steps) :
    (((opened setup cache clock).run steps).perform project .summary).1 =
      (((opened setup cache clock).run steps).perform project .snapshot).1.map
        Answer.summarized := by
  by_cases hp : project = []
  · subst hp
    rfl
  · have hcoherent := hsteps.foldl (fun _ _ h hx => Coherent.step h hp hx)
      (coherent_opened setup clock project hcache)
    exact hcoherent.summary_eq

def createdWith (path content : Text) : Operation :=
  .create (.text "u1") (.text "Demo") .nothing (some (.ofList [(path, content)]))

def syncedTo (path content : Text) : Operation :=
  .sync (.ofList [(path, content)]) (.text "u1") .nothing .nothing

/-- Two projects share a cache with room for one entry; a save fails, but its actor stays. -/
def settledLife : List Step :=
  [.perform "p1" (createdWith "a.txt" "1"),
    .release "p1",
    .perform "p1" .summary,
    .perform "p2" (createdWith "b.txt" "2"),
    .setFaults (Faults.none.replace .projects (some .unavailable) [.saveProject]),
    .perform "p1" (syncedTo "c.txt" "3"),
    .setFaults .none,
    .setClock { now := { seconds := 400 }, steady := .ofInt 400 },
    .release "p2"]

theorem summary_eq_of_settled_settledLife :
    let r := (opened {} (some { policy := { capacity := 1 } }) { now := { seconds := 0 } }).run
      settledLife
    (r.perform "p1" .summary).1 = (r.perform "p1" .snapshot).1.map Answer.summarized := by
  have hcache : ∀ c ∈ (some { policy := { capacity := 1 } } : Option (Cache Cached)),
      1 ≤ c.policy.capacity ∧ c.entries = [] := by
    intro c hc
    rw [← Option.some.inj hc]
    exact ⟨le_refl 1, rfl⟩
  exact summary_eq_of_settled hcache "p1" (by decide +kernel)

/-- The store loses the files of a replacement, and the actor that remembers them is released. -/
def unsettledLife : List Step :=
  [.perform "p1" (createdWith "App.jsx" "function App() \x7b\x7d"),
    .setFaults (Faults.none.replace .projects (some .unavailable) [.saveProject]),
    .perform "p1" (syncedTo "Hero.jsx" "function Hero() \x7b\x7d"),
    .setFaults .none,
    .release "p1"]

/-- The files of the first version are shown then, and the summary of the second. -/
theorem summary_ne_of_unsettled :
    let r := (opened {} (some {}) { now := { seconds := 0 } }).run unsettledLife
    (r.perform "p1" .snapshot).1.map Answer.summarized ≠ (r.perform "p1" .summary).1 ∧
      (r.perform "p1" .snapshot).1 =
        .ok (.files (.ofList [("App.jsx", "function App() \x7b\x7d")])) := by
  decide +kernel

end Registry

end SitePreview
