import SitePreview.Project.Actor

/-! Serial work: calls of operations on one project, one after another. A call begins when none is
under way, and goes on to its end; others may change the shared state only while it stands at a store
call, or between two calls. Where nobody does, the outcomes are those of the routines run one after
another. -/

namespace SitePreview

/-- What others do to what the actors share. -/
abbrev Change := Backend → Backend

/-- A call of an operation, by the ticket of its message. -/
abbrev Call := Ticket × Operation

namespace Routine

variable {α : Type} {m : Memory} {b : Backend}

/-- How a routine that has ended did so. -/
def outcome? : Routine α → Option (Except ProjectError α)
  | done a => some (.ok a)
  | fail e => some (.error e)
  | _ => none

/-- A routine up to its next call ends as the whole of it. -/
theorem run_settle (r : Routine α) (m : Memory) (b : Backend) :
    (r.settle m b).1.run (r.settle m b).2.1 (r.settle m b).2.2 = r.run m b := by
  induction r generalizing m b with
  | done | fail | call => rfl
  | look next ih => exact ih _ _ _ m b
  | remember m' next ih => exact ih m' b
  | recache c next ih => exact ih m { b with cache := c }

theorem run_of_outcome? {r : Routine α} {o : Except ProjectError α} (h : r.outcome? = some o) :
    r.run m b = (o, m, b) := by
  cases r with
  | done | fail =>
    cases h
    rfl
  | call | look | remember | recache => cases h

/-- A settled routine stands at a store call or has ended. -/
theorem exists_outcome_of_settle {r : Routine α} (h : (r.settle m b).1.pending? = none) :
    ∃ o, (r.settle m b).1.outcome? = some o := by
  induction r generalizing m b with
  | done a => exact ⟨.ok a, rfl⟩
  | fail e => exact ⟨.error e, rfl⟩
  | call => cases h
  | look next ih => exact ih _ _ _ h
  | remember m' next ih => exact ih h
  | recache c next ih => exact ih h

/-- The routine makes at most `n` store calls, whatever is replied. -/
def Within : Routine α → Nat → Prop
  | done _, _ => True
  | fail _, _ => True
  | call _ next, n => 0 < n ∧ ∀ reply, (next reply).Within (n - 1)
  | look next, n => ∀ m c t, (next m c t).Within n
  | remember _ next, n => next.Within n
  | recache _ next, n => next.Within n

theorem Within.mono {r : Routine α} {n k : Nat} (h : r.Within n) (hk : n ≤ k) : r.Within k := by
  induction r generalizing n k with
  | done | fail => trivial
  | call c next ih => exact ⟨by have := h.1; omega, fun reply => ih reply (h.2 reply) (by omega)⟩
  | look next ih => exact fun m c t => ih m c t (h m c t) hk
  | remember m next ih => exact ih h hk
  | recache c next ih => exact ih h hk

theorem Within.settle {r : Routine α} {n : Nat} (h : r.Within n) (m : Memory) (b : Backend) :
    (r.settle m b).1.Within n := by
  induction r generalizing m b with
  | done | fail | call => exact h
  | look next ih => exact ih _ _ _ (h _ _ _) m b
  | remember m' next ih => exact ih h m' b
  | recache c next ih => exact ih h m _

/-- Behind its store call, a routine makes one call less. -/
theorem Within.resume {r : Routine Answer} {n : Nat} (h : r.Within n) (hr : r.pending?.isSome)
    (m : Memory) (b : Backend) : 0 < n ∧ (Actor.resume m b r).1.Within (n - 1) := by
  cases r with
  | call c next => exact ⟨h.1, (h.2 _).settle _ _⟩
  | done | fail | look | remember | recache => cases hr

theorem within_bind {β : Type} {r : Routine α} {f : α → Routine β} {n k : Nat} (hr : r.Within n)
    (hf : ∀ a, (f a).Within k) : (r >>= f).Within (n + k) := by
  show (r.bind f).Within (n + k)
  induction r generalizing n with
  | done a => exact (hf a).mono (by omega)
  | fail => trivial
  | call c next ih =>
    have hpos := hr.1
    exact ⟨by omega, fun reply => (ih reply (hr.2 reply)).mono (by omega)⟩
  | look next ih => exact fun m c t => ih m c t (hr m c t)
  | remember m next ih => exact ih hr
  | recache c next ih => exact ih hr

/-- What makes no call adds none. -/
theorem within_bind_free {β : Type} {r : Routine α} {f : α → Routine β} {n : Nat}
    (hr : r.Within 0) (hf : ∀ a, (f a).Within n) : (r >>= f).Within n :=
  (within_bind hr hf).mono (by omega)

theorem within_bind_once {β : Type} {r : Routine α} {f : α → Routine β} {n : Nat}
    (hr : r.Within 1) (hf : ∀ a, (f a).Within n) : (r >>= f).Within (n + 1) :=
  (within_bind hr hf).mono (by omega)

theorem within_ite {p : Prop} [Decidable p] {r r' : Routine α} {n : Nat} (h : r.Within n)
    (h' : r'.Within n) : (if p then r else r').Within n := by
  split
  · exact h
  · exact h'

theorem within_memory : memory.Within 0 := fun _ _ _ => trivial

theorem within_cache : cache.Within 0 := fun _ _ _ => trivial

theorem within_clock : clock.Within 0 := fun _ _ _ => trivial

theorem within_checked (kind : RecordKind) (c : Checked α) : (checked kind c).Within 0 := by
  cases c with
  | ok | bad => trivial

theorem within_written (w : Except Text.EncodeError α) : (written w).Within 0 := by
  cases w with
  | ok | error => trivial

theorem within_ask_bind {c : StoreCall} {f : Except StoreError c.Reply → Routine α} {n : Nat}
    (hok : ∀ reply, (f (.ok reply)).Within n) (herror : ∀ e, (f (.error e)).Within n) :
    (ask c >>= f).Within (n + 1) := by
  refine ⟨Nat.succ_pos n, fun reply => ?_⟩
  cases reply with
  | ok reply => exact hok reply
  | error e => exact herror e

theorem within_askOr (c : StoreCall) (whenOut : c.Reply) : (askOr c whenOut).Within 1 :=
  within_ask_bind (fun _ => trivial) fun _ => within_ite trivial trivial

end Routine

open Routine

variable {s : ProjectSetup} {project : Text}

theorem Ledger.append_within (actor message : Given) (old : Option FileSet) (new : FileSet) :
    (append s project actor old new message).Within 1 := by
  refine within_bind_free (within_written _) fun d => within_ite trivial ?_
  refine within_bind_free within_clock fun t => ?_
  refine within_bind_free (within_checked _ _) fun v => ?_
  exact within_ask_bind (fun _ => trivial) fun _ => within_ite trivial trivial

theorem Ledger.page_within (limit : Option PageLength) : (page s project limit).Within 1 :=
  within_ite trivial (within_ask_bind (fun _ => within_ite trivial trivial)
    fun _ => within_ite trivial trivial)

theorem Ledger.purge_within : (purge s project).Within 1 :=
  within_ite trivial (within_askOr _ _)

namespace Operation

theorem ensureLoaded_within : (ensureLoaded s project).Within 1 := by
  refine within_bind_free within_memory fun m => within_ite trivial ?_
  refine within_bind_free trivial fun _ => within_ite trivial ?_
  exact within_ask_bind (fun _ => trivial) fun _ => within_ite trivial trivial

theorem current_within : (current s project).Within 1 := by
  refine within_bind_once ensureLoaded_within fun _ => within_bind_free within_memory fun m => ?_
  split
  · trivial
  · trivial

theorem persist_within (r : ProjectRecord) : (persist s r).Within 1 :=
  within_ite trivial (within_askOr _ _)

theorem invalidate_within : (invalidate project).Within 0 := by
  refine within_bind_free within_cache fun c => ?_
  split
  · trivial
  · trivial

theorem store_within (kind : Text) (value : Cached) : (store project kind value).Within 0 := by
  refine within_bind_free within_cache fun c => ?_
  split
  · trivial
  refine within_bind_free within_clock fun t => ?_
  split
  · trivial
  · trivial

theorem refresh_within (files : FileSet) : (refresh project files).Within 0 := by
  refine within_bind_free invalidate_within fun _ => ?_
  refine within_bind_free (store_within _ _) fun _ => ?_
  exact within_bind_free (store_within _ _) fun _ => trivial

theorem accept_within (r : ProjectRecord) (kind : NameKind) :
    (accept s project r kind).Within 1 := by
  have hrefresh : (discard (refresh project r.files)).Within 0 :=
    within_bind_free (refresh_within _) fun _ => trivial
  refine within_bind_free within_memory fun m => within_bind_free trivial fun _ => ?_
  exact within_ite (within_bind_once (persist_within r) fun _ => hrefresh)
    (hrefresh.mono (Nat.zero_le 1))

theorem summarize_within : (summarize s project).Within 1 := by
  have hfresh : (current s project >>= fun r => refresh project r.files >>= fun known =>
      pure (Answer.summary known)).Within 1 :=
    within_bind_once current_within fun r =>
      within_bind_free (refresh_within _) fun _ => trivial
  refine within_bind_free within_cache fun c => ?_
  cases c with
  | none => exact hfresh
  | some c =>
    refine within_bind_free within_clock fun t => ?_
    refine within_bind_free (r := setCache _) trivial fun _ => ?_
    refine within_bind_free (r := pure _) trivial fun found => ?_
    dsimp only
    split
    · trivial
    · exact hfresh

theorem remove_within : (remove s project).Within 3 := by
  refine within_bind_once ensureLoaded_within fun _ => within_bind_free within_memory fun m => ?_
  have hforget (stored : Bool) : (discard (Ledger.purge s project) >>= fun _ =>
      invalidate project >>= fun _ => memory >>= fun m' =>
        setMemory { m' with record := none, nameKind := .text } >>= fun _ =>
          pure (Answer.deleted (stored || m.record.isSome))).Within 1 := by
    have hpurge : (discard (Ledger.purge s project)).Within 1 :=
      within_bind_once Ledger.purge_within fun _ => trivial
    refine within_bind_once hpurge fun _ => within_bind_free invalidate_within fun _ => ?_
    exact within_bind_free within_memory fun m => trivial
  exact within_ite (within_bind_once (within_askOr _ _) hforget)
    (within_bind_free (r := pure false) trivial fun stored => (hforget stored).mono (by omega))

/-- No operation makes more than three store calls. -/
theorem routine_within (op : Operation) : (op.routine s project).Within 3 := by
  cases op with
  | create owner name template files =>
    refine within_bind_once ensureLoaded_within fun _ => within_bind_free within_memory fun m => ?_
    refine within_ite trivial (within_bind_once (Ledger.append_within ..) fun d => ?_)
    refine within_bind_free within_clock fun t => within_bind_free (within_checked _ _) fun r => ?_
    exact within_bind_once (accept_within _ _) fun _ => trivial
  | sync files actor message name =>
    refine within_bind_once ensureLoaded_within fun _ => within_bind_free within_memory fun m => ?_
    refine within_bind_once (Ledger.append_within ..) fun d => ?_
    refine within_bind_free within_clock fun t => ?_
    split
    · refine within_bind_free (within_checked _ _) fun r => ?_
      exact within_bind_once (accept_within _ _) fun _ => trivial
    · exact within_bind_once (accept_within _ _) fun _ => trivial
  | write edits =>
    refine within_bind_once current_within fun r => ?_
    split
    split
    · trivial
    refine within_bind_free (within_written _) fun hash => within_bind_free within_clock fun t => ?_
    refine within_bind_free within_memory fun m => ?_
    exact within_bind_once (accept_within _ _) fun _ => trivial
  | content | snapshot => exact within_bind_once current_within fun r => trivial
  | listFiles =>
    exact within_bind_once current_within fun r =>
      within_bind_free (within_written _) fun sizes => trivial
  | status | render =>
    refine within_bind_once current_within fun r => within_bind_free within_memory fun m => ?_
    exact within_ite trivial trivial
  | summary => exact summarize_within.mono (by omega)
  | history limit => exact within_bind_once (Ledger.page_within limit) fun h => trivial
  | delete => exact remove_within

/-- The operations run one after another: their outcomes, and what is remembered and shared then. -/
def runAll (s : ProjectSetup) (project : Text) :
    List Operation → Memory → Backend → List Outcome × Memory × Backend
  | [], m, b => ([], m, b)
  | op :: ops, m, b =>
    let (o, m, b) := (op.routine s project).run m b
    let (os, m, b) := runAll s project ops m b
    (o :: os, m, b)

theorem runAll_append_singleton {ops : List Operation} {op : Operation} {m m' : Memory}
    {b b' : Backend} {os : List Outcome} (h : runAll s project ops m b = (os, m', b')) :
    runAll s project (ops ++ [op]) m b =
      (os ++ [((op.routine s project).run m' b').1], ((op.routine s project).run m' b').2) := by
  induction ops generalizing m b os with
  | nil =>
    cases h
    rfl
  | cons x ops ih =>
    simp only [runAll, Prod.mk.injEq] at h
    obtain ⟨rfl, rfl, rfl⟩ := h
    simp only [List.cons_append, runAll]
    rw [ih rfl]

end Operation

/-- Serial work over the shared state `b₀`, by an actor that has remembered nothing yet: what others
have changed, the calls that are finished with their outcomes, the one that is under way with the
rest of its routine, and what is remembered and shared now. -/
inductive Serial (s : ProjectSetup) (project : Text) (b₀ : Backend) :
    List Change → List (Call × Outcome) → Option (Call × Routine Answer) → Memory → Backend → Prop
  | start : Serial s project b₀ [] [] none {} b₀
  | begin {fs finished m b} (call : Call) : Serial s project b₀ fs finished none m b →
      Serial s project b₀ fs finished
        (some (call, ((call.2.routine s project).settle m b).1))
        ((call.2.routine s project).settle m b).2.1 ((call.2.routine s project).settle m b).2.2
  | resume {fs finished call r m b} : Serial s project b₀ fs finished (some (call, r)) m b →
      Serial s project b₀ fs finished (some (call, (Actor.resume m b r).1))
        (Actor.resume m b r).2.1 (Actor.resume m b r).2.2
  | finish {fs finished call r m b o} : Serial s project b₀ fs finished (some (call, r)) m b →
      r.outcome? = some o → Serial s project b₀ fs (finished ++ [(call, o)]) none m b
  | change {fs finished underWay m b} (f : Change) :
      Serial s project b₀ fs finished underWay m b →
      Serial s project b₀ (fs ++ [f]) finished underWay m (f b)

theorem Actor.run_resume (m : Memory) (b : Backend) (r : Routine Answer) :
    (resume m b r).1.run (resume m b r).2.1 (resume m b r).2.2 = r.run m b := by
  cases r with
  | call c next => exact run_settle (next _) m _
  | done | fail | look | remember | recache => exact run_settle _ m b

/-- While nobody else changes what is shared, serial work is the routines run one after another. -/
theorem Serial.runAll_eq {b₀ : Backend} {finished : List (Call × Outcome)}
    {underWay : Option (Call × Routine Answer)} {m : Memory} {b : Backend}
    (h : Serial s project b₀ [] finished underWay m b) :
    ∃ m' b', Operation.runAll s project (finished.map fun f => f.1.2) {} b₀ =
        (finished.map Prod.snd, m', b') ∧ (underWay = none → (m', b') = (m, b)) ∧
      ∀ u ∈ underWay, (u.1.2.routine s project).run m' b' = u.2.run m b := by
  generalize hfs : ([] : List Change) = fs at h
  induction h with
  | start => exact ⟨_, _, rfl, fun _ => rfl, fun u hu => nomatch hu⟩
  | begin call h ih =>
    obtain ⟨m', b', hrun, hsame, -⟩ := ih hfs
    cases hsame rfl
    refine ⟨_, _, hrun, fun hnone => (nomatch hnone), fun u hu => ?_⟩
    cases hu
    exact (run_settle ..).symm
  | resume h ih =>
    obtain ⟨m', b', hrun, -, hrest⟩ := ih hfs
    refine ⟨m', b', hrun, fun hnone => (nomatch hnone), fun u hu => ?_⟩
    cases hu
    exact (hrest _ rfl).trans (Actor.run_resume ..).symm
  | @finish fs finished call r m b o h ho ih =>
    obtain ⟨m', b', hrun, -, hrest⟩ := ih hfs
    have hended := (hrest _ rfl).trans (run_of_outcome? ho)
    refine ⟨m, b, ?_, fun _ => rfl, fun u hu => nomatch hu⟩
    rw [List.map_append, List.map_append]
    refine (Operation.runAll_append_singleton hrun).trans ?_
    rw [hended]
    rfl
  | change f h ih => exact absurd hfs.symm (List.append_ne_nil_of_right_ne_nil _ (by simp))

end SitePreview
