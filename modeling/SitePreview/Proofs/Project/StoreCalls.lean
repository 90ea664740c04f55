import SitePreview.Project.Routine
import SitePreview.Proofs.Text.Encoding

/-! Store calls of a routine: each is answered by the database, or kept from it and answered with an
outage. Routines run one after another, so what a routine does is read off its calls in turn. -/

namespace SitePreview

/-- The store never fails in a way that callers do not bear. -/
def Faults.Bearable (f : Faults) : Prop := ∀ m, f m ≠ some .crash

theorem Faults.bearable_none : Faults.none.Bearable := nofun

/-- A store whose calls all fail alike is borne. -/
theorem Faults.bearable_const {kind : FaultKind} (h : kind ≠ .crash) :
    Faults.Bearable fun _ => some kind := fun _ hm => h (Option.some.inj hm)

/-- The database cannot refuse a text of the call. -/
def StoreCall.Plain (c : StoreCall) : Prop := ∀ t ∈ c.plainTexts, t.isUtf8 = true

theorem StoreCall.plain_of_texts {c : StoreCall} {project : Text}
    (hc : c.plainTexts = [project]) (hpu : project.isUtf8 = true) : c.Plain := by
  intro t ht
  rw [hc, List.mem_singleton] at ht
  exact ht ▸ hpu

theorem Database.encodeError?_eq_none {c : StoreCall} (h : c.Plain) : encodeError? c = none := by
  rw [encodeError?, List.findSome?_eq_none_iff]
  intro t ht
  exact Text.encodeErrorFrom?_eq_none_iff.mpr (h t ht)

namespace Backend

variable {b : Backend} {c : StoreCall}

/-- Calls of this kind get through to the database. -/
def reaches (b : Backend) (m : StoreMethod) : Bool :=
  b.database.hasTables && (b.faults m).isNone

/-- The shared state behind a call that gets through. -/
def applied (b : Backend) (c : StoreCall) : Backend :=
  { b with database := (b.database.apply b.clock.now c).2 }

/-- A call that gets through is refused for its texts alone. -/
theorem perform_eq_of_reaches (h : b.reaches c.method = true) :
    b.perform c = match Database.encodeError? c with
      | some x => (.error (.notUtf8 x), b)
      | none => (.ok (b.database.apply b.clock.now c).1, b.applied c) := by
  simp only [reaches, Bool.and_eq_true, Option.isNone_iff_eq_none] at h
  rw [perform, h.2, Database.perform, h.1]
  cases Database.encodeError? c <;> rfl

theorem perform_of_reaches (h : b.reaches c.method = true) (hc : c.Plain) :
    b.perform c = (.ok (b.database.apply b.clock.now c).1, b.applied c) := by
  rw [perform_eq_of_reaches h, Database.encodeError?_eq_none hc]

/-- A call that does not get through fails and changes nothing. -/
theorem exists_error_of_not_reaches (h : b.reaches c.method = false) :
    ∃ e, b.perform c = (.error e, b) ∧ (b.faults.Bearable → e.isOutage = true) := by
  cases hm : b.faults c.method with
  | some kind =>
    refine ⟨kind.error, by simp [perform, hm], fun hf => ?_⟩
    cases kind with
    | unavailable | system => rfl
    | crash => exact absurd hm (hf _)
  | none =>
    have ht : b.database.hasTables = false := by simpa [reaches, hm] using h
    exact ⟨.unavailable c.unavailableMessage, by simp [perform, hm, Database.perform, ht],
      fun _ => rfl⟩

theorem perform_of_not_reaches (hf : b.faults.Bearable) (h : b.reaches c.method = false) :
    ∃ e, e.isOutage = true ∧ b.perform c = (.error e, b) := by
  obtain ⟨e, he, hout⟩ := exists_error_of_not_reaches h
  exact ⟨e, hout hf, he⟩

/-- A call changes nothing, or it has got through. -/
theorem perform_cases (b : Backend) (c : StoreCall) :
    (∃ e, b.perform c = (.error e, b)) ∨
      b.perform c = (.ok (b.database.apply b.clock.now c).1, b.applied c) := by
  cases h : b.reaches c.method with
  | false =>
    obtain ⟨e, he, -⟩ := exists_error_of_not_reaches h
    exact .inl ⟨e, he⟩
  | true =>
    rw [perform_eq_of_reaches h]
    cases Database.encodeError? c with
    | some x => exact .inl ⟨_, rfl⟩
    | none => exact .inr rfl

/-- A call that the database cannot refuse succeeds exactly if it gets through. -/
theorem perform_ok_iff (hf : b.faults.Bearable) (hc : c.Plain) :
    (∃ reply, (b.perform c).1 = .ok reply) ↔ b.reaches c.method = true := by
  cases h : b.reaches c.method with
  | true => simp [perform_of_reaches h hc]
  | false =>
    obtain ⟨e, -, he⟩ := perform_of_not_reaches hf h
    simp [he]

end Backend

namespace Routine

variable {α β : Type} {m m' : Memory} {b b' : Backend}

theorem run_bind (r : Routine α) (f : α → Routine β) :
    (r >>= f).run m b =
      match r.run m b with
      | (.ok a, m, b) => (f a).run m b
      | (.error e, m, b) => (.error e, m, b) := by
  show (r.bind f).run m b = _
  induction r generalizing m b with
  | done a => rfl
  | fail e => rfl
  | call c next ih => exact ih _
  | look next ih => exact ih _ _ _
  | remember m next ih => exact ih
  | recache c next ih => exact ih

/-- Behind a routine that ends well, the next one goes on. -/
theorem run_bind_ok {r : Routine α} {a : α} (f : α → Routine β)
    (h : r.run m b = (.ok a, m', b')) : (r >>= f).run m b = (f a).run m' b' := by
  rw [run_bind, h]

/-- A routine that fails is the end of what was to follow. -/
theorem run_bind_error {r : Routine α} {e : ProjectError} (f : α → Routine β)
    (h : r.run m b = (.error e, m', b')) : (r >>= f).run m b = (.error e, m', b') := by
  rw [run_bind, h]

/-- A value that is not needed leaves what the routine did. -/
theorem run_discard {r : Routine α} {a : α} (h : r.run m b = (.ok a, m', b')) :
    (discard r).run m b = (.ok (), m', b') :=
  run_bind_ok _ h

theorem run_discard_error {r : Routine α} {e : ProjectError}
    (h : r.run m b = (.error e, m', b')) : (discard r).run m b = (.error e, m', b') :=
  run_bind_error _ h

@[simp] theorem run_pure (a : α) : (pure a : Routine α).run m b = (.ok a, m, b) := rfl

@[simp] theorem run_fail (e : ProjectError) :
    (fail e : Routine α).run m b = (.error e, m, b) := rfl

@[simp] theorem run_fail_bind (e : ProjectError) (f : α → Routine β) :
    ((fail e : Routine α) >>= f).run m b = (.error e, m, b) := rfl

@[simp] theorem run_written_bind (a : α) (f : α → Routine β) :
    (written (.ok a) >>= f).run m b = (f a).run m b := rfl

@[simp] theorem run_checked_bind (kind : RecordKind) (a : α) (f : α → Routine β) :
    (checked kind (.ok a) >>= f).run m b = (f a).run m b := rfl

@[simp] theorem run_checked_bad_bind (kind : RecordKind) (is : List Issue) (f : α → Routine β) :
    (checked kind (.bad is) >>= f).run m b = (.error (.record kind is), m, b) := rfl

@[simp] theorem run_memory_bind (f : Memory → Routine β) :
    (memory >>= f).run m b = (f m).run m b := rfl

@[simp] theorem run_cache_bind (f : Option (Cache Cached) → Routine β) :
    (cache >>= f).run m b = (f b.cache).run m b := rfl

@[simp] theorem run_clock_bind (f : Clock → Routine β) :
    (clock >>= f).run m b = (f b.clock).run m b := rfl

@[simp] theorem run_setMemory_bind (f : Unit → Routine β) :
    (setMemory m' >>= f).run m b = (f ()).run m' b := rfl

@[simp] theorem run_setCache_bind (c : Option (Cache Cached)) (f : Unit → Routine β) :
    (setCache c >>= f).run m b = (f ()).run m { b with cache := c } := rfl

theorem run_ask_bind (c : StoreCall) (f : Except StoreError c.Reply → Routine β) :
    (ask c >>= f).run m b = (f (b.perform c).1).run m (b.perform c).2 := rfl

variable {c : StoreCall}

theorem run_askOr_ok {reply : c.Reply} (whenOut : c.Reply) (h : b.perform c = (.ok reply, b')) :
    (askOr c whenOut).run m b = (.ok reply, m, b') := by
  rw [askOr, run, h]
  rfl

theorem run_askOr_notUtf8 {x : Text.EncodeError} (whenOut : c.Reply)
    (h : b.perform c = (.error (.notUtf8 x), b')) :
    (askOr c whenOut).run m b = (.error (.store (.notUtf8 x)), m, b') := by
  rw [askOr, run, h]
  rfl

theorem run_askOr_of_reaches (whenOut : c.Reply) (h : b.reaches c.method = true) (hc : c.Plain) :
    (askOr c whenOut).run m b = (.ok (b.database.apply b.clock.now c).1, m, b.applied c) :=
  run_askOr_ok whenOut (Backend.perform_of_reaches h hc)

theorem run_askOr_of_not_reaches (whenOut : c.Reply) (hf : b.faults.Bearable)
    (h : b.reaches c.method = false) : (askOr c whenOut).run m b = (.ok whenOut, m, b) := by
  obtain ⟨e, he, hb⟩ := Backend.perform_of_not_reaches hf h
  simp [askOr, run, hb, he]

end Routine

end SitePreview
