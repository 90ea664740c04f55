import SitePreview.Proofs.Project.Serving

/-! Durable projects. A project that has a row stays stored, and is not created once more, until it
is deleted or an actor of it asks for its record in vain. Such an actor takes the project for one
that is not there, and the next record that it commits goes over the row. -/

namespace SitePreview

/-- The store tells actors of their records. -/
def Backend.tells (b : Backend) (s : ProjectSetup) : Bool :=
  s.keepsProjects && b.reaches .loadProject

/-- An actor that has asked for its record remembers one. -/
def Memory.Recalls (m : Memory) : Prop := m.loaded = true → m.record.isSome = true

theorem Backend.Intact.isUtf8_of_get? {b : Backend} {project : Text} (h : b.Intact)
    (hrow : (b.database.projects.get? project).isSome = true) : project.isUtf8 = true := by
  obtain ⟨r, hr⟩ := Option.isSome_iff_exists.mp hrow
  have hintact := ProjectTable.intact_get? h hr
  exact hintact.project ▸ hintact.named

namespace Operation

open Routine

variable {s : ProjectSetup} {project : Text} {m m' : Memory} {b b' : Backend} {op : Operation}
  {o : Except ProjectError Answer}

theorem isSome_asked (hrow : (b.database.projects.get? project).isSome = true) (hm : m.Recalls)
    (htold : m.loaded = false → b.tells s = true) :
    (m.asked s project b).record.isSome = true := by
  rw [Memory.asked]
  cases hl : m.loaded with
  | true => exact hm hl
  | false =>
    have htells : (s.keepsProjects && b.reaches .loadProject) = true := htold hl
    rw [if_neg Bool.false_ne_true, if_pos htells]
    exact hrow

/-- A deletion apart, an operation leaves a row and an actor that recalls it, unless the actor asks
in vain. -/
theorem Ending.stands (h : Ending s project m b op o m' b') (hb : b.Intact)
    (hrow : (b.database.projects.get? project).isSome = true) (hm : m.Recalls)
    (hop : op ≠ .delete) (htold : m.loaded = false → m'.loaded = true → b.tells s = true) :
    (b'.database.projects.get? project).isSome = true ∧ m'.Recalls := by
  have hasked (htold : m.loaded = false → (m.asked s project b).loaded = true →
      b.tells s = true) : (m.asked s project b).Recalls :=
    fun hl => isSome_asked hrow hm fun hl' => htold hl' hl
  cases h with
  | kept => exact ⟨hrow, hm⟩
  | known _ hb' =>
    rw [hb'.only]
    exact ⟨hrow, hm⟩
  | unheard hl hvain =>
    -- the store would have told the actor of the row
    have htells := htold hl rfl
    rw [Backend.tells, Bool.and_eq_true] at htells
    have hpu := hb.isUtf8_of_get? hrow
    rw [hvain htells.2] at hpu
    cases hpu
  | answered hrecord => exact ⟨hrow, fun _ => hrecord⟩
  | refused _ hprojects =>
    rw [hprojects]
    exact ⟨hrow, hasked htold⟩
  | committed _ _ hrow' hb' =>
    rw [hb']
    exact ⟨hrow' hrow, fun _ => rfl⟩
  | missing hb' =>
    rw [hb'.only]
    exact ⟨hrow, hasked htold⟩
  | summarised _ hb' =>
    rw [hb']
    exact ⟨hrow, hasked htold⟩
  | undeleted | deleted => exact absurd rfl hop

/-- An operation that has changed a row, or has found a record, leaves an actor that recalls it. -/
theorem Ending.recalls (h : Ending s project m b op o m' b') (hop : op ≠ .delete)
    (hconfirms : b'.database.projects.get? project ≠ b.database.projects.get? project ∨
      op.asksFirst = true ∧ ∃ a, o = .ok a) : m'.Recalls := by
  have hsame (hrow : b'.database.projects.get? project = b.database.projects.get? project) :
      op.asksFirst = true ∧ ∃ a, o = .ok a := hconfirms.resolve_left fun hne => hne hrow
  cases h with
  | kept =>
    obtain ⟨hfirst, -⟩ := hsame rfl
    cases hfirst
  | known _ hb' | missing hb' =>
    obtain ⟨hfirst, -⟩ := hsame (by rw [hb'.only]; rfl)
    cases hfirst
  | summarised _ hb' =>
    obtain ⟨hfirst, -⟩ := hsame (by rw [hb']; rfl)
    cases hfirst
  | unheard _ _ hb' =>
    obtain ⟨-, a, ha⟩ := hsame (by rw [hb'.only]; rfl)
    cases ha
  | refused _ hprojects =>
    obtain ⟨-, a, ha⟩ := hsame (by rw [hprojects])
    cases ha
  | answered hrecord => exact fun _ => hrecord
  | committed => exact fun _ => rfl
  | undeleted | deleted => exact absurd rfl hop

theorem Ending.loaded (h : Ending s project m b op o m' b') (hop : op.asksFirst = true) :
    m'.loaded = true := by
  have hasked := m.asked_loaded s project b
  cases h with
  | kept | known | missing | summarised => cases hop
  | unheard => rfl
  | answered | refused | committed | undeleted | deleted => exact hasked

/-- A project is not created once more where its actor knows of it, or is told. -/
theorem run_create_of_recalls (hb : b.Intact)
    (hrow : (b.database.projects.get? project).isSome = true) (hm : m.Recalls)
    (htold : m.loaded = false → b.tells s = true) (owner name template : Given)
    (files : Option FileSet) :
    ((create owner name template files).routine s project).run m b =
      (.error (.alreadyThere project), m.asked s project b, b) := by
  obtain ⟨r, hr⟩ := Option.isSome_iff_exists.mp (isSome_asked hrow hm htold)
  rcases run_ensureLoaded_cases s project m b with hload | ⟨hl, hvain, -⟩
  · rw [run_course hload rfl, createCourse, hr]
    rfl
  · have htells := htold hl
    rw [Backend.tells, Bool.and_eq_true] at htells
    have hpu := hb.isUtf8_of_get? hrow
    rw [hvain htells.2] at hpu
    cases hpu

end Operation

namespace Registry

variable {r : Registry} {project : Text} {op : Operation} {x : Step}

def rowOf? (r : Registry) (project : Text) : Option ProjectRecord :=
  r.backend.database.projects.get? project

/-- In the step an actor of the project asks the store for its record, and is not told. -/
def AsksInVain (project : Text) (r : Registry) (x : Step) : Prop :=
  (r.memoryOf project).loaded = false ∧ ((r.step x).memoryOf project).loaded = true ∧
    r.backend.tells r.setup = false

instance (project : Text) (r : Registry) (x : Step) : Decidable (AsksInVain project r x) :=
  inferInstanceAs (Decidable (_ ∧ _ ∧ _))

/-- The step does not delete the project. -/
def Step.spares (project : Text) : Step → Bool
  | perform p .delete => p ≠ project
  | _ => true

/-- The project is not deleted in the step, nor does an actor of it ask in vain. -/
def Minds (project : Text) (r : Registry) (x : Step) : Prop :=
  x.spares project = true ∧ ¬AsksInVain project r x

instance (project : Text) (r : Registry) (x : Step) : Decidable (Minds project r x) :=
  inferInstanceAs (Decidable (_ ∧ _))

/-- Behind the operation the project has a row, which was written by the operation, or is that of a
project that the operation has found to be there. -/
def Confirms (project : Text) (r : Registry) (op : Operation) : Prop :=
  op ≠ .delete ∧ ((r.perform project op).2.rowOf? project).isSome = true ∧
    ((r.perform project op).2.rowOf? project ≠ r.rowOf? project ∨
      op.asksFirst = true ∧ (r.perform project op).1.toBool = true)

instance (project : Text) (r : Registry) (op : Operation) : Decidable (Confirms project r op) :=
  inferInstanceAs (Decidable (_ ∧ _ ∧ _))

/-- The project has a row, and its actor recalls it once it has asked. -/
structure Standing (project : Text) (r : Registry) : Prop where
  intact : r.Intact
  row : (r.rowOf? project).isSome = true
  recalls : (r.memoryOf project).Recalls

theorem Confirms.standing (h : Confirms project r op) (hr : r.Intact) :
    Standing project (r.perform project op).2 := by
  obtain ⟨hop, hrow, hconfirms⟩ := h
  refine ⟨(hr.perform project op).1, hrow, ?_⟩
  by_cases hrejected : project = [] ∨ op.check ≠ .ok ()
  · obtain ⟨⟨e, he⟩, -, hbackend, -⟩ := hr.addressed.perform_of_rejected hrejected
    rw [rowOf?, hbackend, he] at hconfirms
    rcases hconfirms with hne | ⟨-, hok⟩
    · exact absurd rfl hne
    · cases hok
  · rw [not_or, not_not] at hrejected
    obtain ⟨o, m, b, hending, ho, -, hb, hm⟩ := hr.perform_ending hrejected.1 hrejected.2
    rw [rowOf?, rowOf?, hb, ho] at hconfirms
    rw [hm, if_pos rfl]
    refine hending.recalls hop (hconfirms.imp_right fun ⟨hfirst, hok⟩ => ⟨hfirst, ?_⟩)
    cases o with
    | ok a => exact ⟨a, rfl⟩
    | error e => cases hok

/-- What stays is the row and what the actor remembers, or there is a new actor. -/
theorem Standing.of_memoryOf {r' : Registry} (h : Standing project r) (hr : r'.Intact)
    (hrow : r'.rowOf? project = r.rowOf? project)
    (hm : r'.memoryOf project = r.memoryOf project ∨ r'.memoryOf project = {}) :
    Standing project r' := by
  refine ⟨hr, hrow ▸ h.row, ?_⟩
  rcases hm with hm | hm
  · rw [hm]
    exact h.recalls
  · rw [hm]
    exact fun hl => nomatch hl

theorem Standing.perform (h : Standing project r) {p : Text}
    (hx : Minds project r (.perform p op)) : Standing project (r.perform p op).2 := by
  have hintact := (h.intact.perform p op).1
  by_cases hrejected : p = [] ∨ op.check ≠ .ok ()
  · obtain ⟨-, -, hbackend, hm⟩ := h.intact.addressed.perform_of_rejected hrejected
    exact h.of_memoryOf hintact (by rw [rowOf?, hbackend, rowOf?]) (.inl (hm project))
  rw [not_or, not_not] at hrejected
  obtain ⟨o, m, b, hending, -, -, hb, hm⟩ := h.intact.perform_ending hrejected.1 hrejected.2
  by_cases hp : project = p
  · subst hp
    obtain ⟨hspares, hvain⟩ := hx
    have hop : op ≠ .delete := by
      rintro rfl
      simp [Step.spares] at hspares
    have hm := hm project
    rw [if_pos rfl] at hm
    obtain ⟨hrow, hrecalls⟩ := hending.stands h.intact.backend h.row h.recalls hop
      fun hl hl' => by
        by_contra htells
        exact hvain ⟨hl, by rw [step, hm]; exact hl', by simpa using htells⟩
    refine ⟨hintact, ?_, hm ▸ hrecalls⟩
    rw [rowOf?, hb]
    exact hrow
  · refine h.of_memoryOf hintact ?_ (.inl ((hm project).trans (if_neg hp)))
    rw [rowOf?, hb]
    exact hending.frames.others project hp

theorem Standing.step (h : Standing project r) (hx : Minds project r x) :
    Standing project (r.step x) := by
  have hintact := h.intact.step x
  cases hk : x.isHousekeeping with
  | true =>
    obtain ⟨-, hbackend, -⟩ := step_housekeeping (r := r) hk
    refine h.of_memoryOf hintact (by rw [rowOf?, hbackend, rowOf?]) ?_
    exact h.intact.addressed.memoryOf_housekeeping hk hintact.addressed project
  | false =>
    cases x with
    | perform p op => exact h.perform hx
    | setFaults | setClock => exact h.of_memoryOf hintact rfl (.inl rfl)
    | start | release | closeActor | closeAll => cases hk

theorem Confirms.ne_nil (h : Confirms project r op) : project ≠ [] := by
  rintro rfl
  obtain ⟨-, -, hne | ⟨-, hok⟩⟩ := h
  · exact hne rfl
  · cases hok

theorem Standing.perform_create (h : Standing project r) (hp : project ≠ [])
    {owner name template : Given} {files : Option FileSet}
    (hvain : ¬AsksInVain project r (.perform project (.create owner name template files))) :
    (r.perform project (.create owner name template files)).2.backend = r.backend ∧
      ((Operation.create owner name template files).check = .ok () →
        (r.perform project (.create owner name template files)).1 =
          .error (.alreadyThere project)) := by
  by_cases hcheck : (Operation.create owner name template files).check = .ok ()
  · obtain ⟨o, m, b, hending, -, -, -, hm⟩ := h.intact.perform_ending hp hcheck
    have htold (hl : (r.memoryOf project).loaded = false) : r.backend.tells r.setup = true := by
      by_contra htells
      refine hvain ⟨hl, ?_, by simpa using htells⟩
      rw [Registry.step, hm, if_pos rfl]
      exact hending.loaded rfl
    have hrun := Operation.run_create_of_recalls h.intact.backend h.row h.recalls htold owner name
      template files
    obtain ⟨ho, -, hb, -⟩ := h.intact.addressed.perform_eq hp hcheck hrun
    exact ⟨hb, fun _ => ho⟩
  · obtain ⟨-, -, hbackend, -⟩ := h.intact.addressed.perform_of_rejected (.inr hcheck)
    exact ⟨hbackend, fun h => absurd h hcheck⟩

/-- Whatever happens between an operation that has written the row of a project, or has found the
project to be there, and an attempt to create the project once more: if the project is not deleted
and no actor of it asks for its record in vain, the project is still stored, the attempt is refused,
and it leaves all that is shared as it was. -/
theorem create_refused_while_minded {setup : ProjectSetup} {cache : Option (Cache Cached)}
    {clock : Clock} {earlier later : List Step} {project : Text} {op : Operation}
    (hconfirms : Confirms project ((opened setup cache clock).run earlier) op)
    (hlater : Throughout Registry.step (Minds project)
      ((opened setup cache clock).run (earlier ++ [.perform project op])) later)
    (owner name template : Given) (files : Option FileSet)
    (hcreate : ¬AsksInVain project
      ((opened setup cache clock).run (earlier ++ .perform project op :: later))
      (.perform project (.create owner name template files))) :
    let r := (opened setup cache clock).run (earlier ++ .perform project op :: later)
    (r.rowOf? project).isSome = true ∧
      (r.perform project (.create owner name template files)).2.backend = r.backend ∧
      ((Operation.create owner name template files).check = .ok () →
        (r.perform project (.create owner name template files)).1 =
          .error (.alreadyThere project)) := by
  have hstart : Standing project
      ((opened setup cache clock).run (earlier ++ [.perform project op])) := by
    rw [run, List.foldl_append]
    exact hconfirms.standing ((intact_opened setup cache clock).run earlier)
  have hstanding : Standing project
      ((opened setup cache clock).run (earlier ++ .perform project op :: later)) := by
    have hrun := hlater.foldl (fun _ _ h hx => h.step hx) hstart
    rw [run, ← List.foldl_append, List.append_assoc] at hrun
    exact hrun
  exact ⟨hstanding.row, hstanding.perform_create hconfirms.ne_nil hcreate⟩

def firstCreation : Operation :=
  .create (.text "u1") (.text "Demo") .nothing (some (.ofList [("a.txt", "1")]))

def secondCreation : Operation :=
  .create (.text "u2") (.text "Other") .nothing (some (.ofList [("b.txt", "2")]))

/-- The store takes nothing for a while, and the actor is released, but whoever asks is told. -/
def heardLife : List Step :=
  [.setFaults fun m => if m = .loadProject then none else some .unavailable,
    .perform "p1" (.sync (.ofList [("c.txt", "3")]) (.text "u1") .nothing .nothing),
    .release "p1",
    .perform "p1" .status,
    .setFaults .none]

theorem create_refused_while_minded_heardLife :
    let r := (opened {} (some {}) { now := { seconds := 0 } }).run
      ([] ++ .perform "p1" firstCreation :: heardLife)
    let files := some (.ofList [("b.txt", "2")])
    (r.rowOf? "p1").isSome = true ∧
      (r.perform "p1" (.create (.text "u2") .nothing .nothing files)).2.backend = r.backend ∧
      (r.perform "p1" (.create (.text "u2") .nothing .nothing files)).1 =
        .error (.alreadyThere "p1") := by
  intro r files
  have hconfirms : Confirms "p1" ((opened {} (some {}) { now := { seconds := 0 } }).run [])
      firstCreation := by decide +kernel
  have hlater : Throughout Registry.step (Minds "p1")
      ((opened {} (some {}) { now := { seconds := 0 } }).run
        ([] ++ [.perform "p1" firstCreation])) heardLife := by decide +kernel
  have hcreate : ¬AsksInVain "p1" r
      (.perform "p1" (.create (.text "u2") .nothing .nothing files)) := by decide +kernel
  obtain ⟨hrow, hbackend, houtcome⟩ :=
    create_refused_while_minded hconfirms hlater (.text "u2") .nothing .nothing files hcreate
  exact ⟨hrow, hbackend, houtcome (by decide +kernel)⟩

/-- The actor of a project is released, and a new one asks for the record while the store is out of
reach. -/
def unheardLife : List Step :=
  [.perform "p1" firstCreation,
    .release "p1",
    .setFaults (Faults.none.replace .projects (some .unavailable) [.loadProject]),
    .perform "p1" .status,
    .setFaults .none]

/-- A project that has a row, and was never deleted, is created once more: its row is that of the
second creation then. -/
theorem create_overwrites_unheard :
    let r := (opened {} none { now := { seconds := 0 } }).run unheardLife
    let (outcome, r') := r.perform "p1" secondCreation
    (∀ x ∈ unheardLife, x.spares "p1" = true) ∧
      (r.rowOf? "p1").map (fun row => (row.ownerId, row.name, row.files)) =
        some (("u1" : Text), ("Demo" : Text), FileSet.ofList [("a.txt", "1")]) ∧
      outcome.toBool = true ∧
      (r'.rowOf? "p1").map (fun row => (row.ownerId, row.name, row.files)) =
        some (("u2" : Text), ("Other" : Text), FileSet.ofList [("b.txt", "2")]) := by
  decide +kernel

end Registry

end SitePreview
