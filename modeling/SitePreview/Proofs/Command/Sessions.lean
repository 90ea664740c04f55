import SitePreview.Command.Run

/-! What the parts of a command do to its workspace. Most of them leave it as it is, and some change
nothing at all. A part that stops is the last one. -/

namespace SitePreview.Command

open Text Console

variable {α β : Type} {p q : Progress} {stop : Stop}

namespace Session

/-- What comes of a part of a command, and what is done by then. -/
def outcome (x : Session α) (p : Progress) : Except Stop α × Progress := x.run.run p

variable {x : Session α} {f : α → Session β} {a : α}

theorem outcome_bind_ok (h : x.outcome p = (.ok a, q)) : (x >>= f).outcome p = (f a).outcome q := by
  show (x.run.bind (ExceptT.bindCont f)).run p = _
  show ExceptT.bindCont f (x.outcome p).1 (x.outcome p).2 = _
  rw [h]
  rfl

theorem outcome_bind_error (h : x.outcome p = (.error stop, q)) :
    (x >>= f).outcome p = (.error stop, q) := by
  show ExceptT.bindCont f (x.outcome p).1 (x.outcome p).2 = _
  rw [h]
  rfl

/-- Nothing changes, whatever comes of it. -/
def Looks (x : Session α) : Prop := ∀ p, (x.outcome p).2 = p

/-- The workspace stays as it is, whatever comes of it. -/
def Leaves (x : Session α) : Prop := ∀ p, (x.outcome p).2.workspace = p.workspace

theorem Looks.leaves (h : Looks x) : Leaves x := fun p => congrArg Progress.workspace (h p)

theorem looks_pure (a : α) : Looks (pure a) := fun _ => rfl

theorem looks_throw (stop : Stop) : Looks (throw stop : Session α) := fun _ => rfl

theorem looks_workspace : Looks workspace := fun _ => rfl

theorem looks_orUsage (o : Option α) : Looks (orUsage o) := by cases o <;> exact fun _ => rfl

theorem outcome_orUsage (a : α) (p : Progress) : (orUsage (some a)).outcome p = (.ok a, p) := rfl

theorem looks_orFail {ε : Type} (failure : ε → Failure) (e : Except ε α) :
    Looks (orFail failure e) := by cases e <;> exact fun _ => rfl

theorem Looks.bind (hx : Looks x) (hf : ∀ a, Looks (f a)) : Looks (x >>= f) := by
  intro p
  have hxp := hx p
  cases hp : x.outcome p with
  | mk e q =>
    rw [hp] at hxp
    obtain rfl : q = p := hxp
    cases e with
    | ok a => rw [outcome_bind_ok hp, hf a]
    | error stop => rw [outcome_bind_error hp]

theorem Leaves.bind (hx : Leaves x) (hf : ∀ a, Leaves (f a)) : Leaves (x >>= f) := by
  intro p
  have hxp := hx p
  cases hp : x.outcome p with
  | mk e q =>
    rw [hp] at hxp
    cases e with
    | ok a => rw [outcome_bind_ok hp, hf a, hxp]
    | error stop => rw [outcome_bind_error hp, hxp]

theorem leaves_put (t : Text) : Leaves (put t) := fun _ => rfl

theorem leaves_tell (env : Environment) (blocks : List Block) : Leaves (tell env blocks) :=
  (looks_orFail Failure.markup _).leaves.bind fun _ _ => rfl

end Session

open Session

theorem leaves_putJson (v : Json) : Leaves (putJson v) := leaves_put _

theorem looks_settings (env : Environment) : Looks (settings env) := by
  have hload (t : Text) : Looks (orFail .settings (Settings.load [] env.bindings t)) :=
    looks_orFail _ _
  refine looks_workspace.bind fun w => ?_
  dsimp only
  split
  · exact (looks_pure _).bind hload
  · split
    · exact (looks_throw _).bind hload
    · exact (looks_pure _).bind hload

theorem looks_fileAt (path : Text) : Looks (fileAt path) :=
  looks_workspace.bind fun _ => looks_orUsage _

section Run

variable (env : Environment) (w : Workspace) (arguments : List Text)

theorem progress_run :
    (run env w arguments).progress = ((session env arguments).outcome { workspace := w }).2 := by
  rw [run, outcome]
  split <;> rename_i heq <;> rw [heq]

theorem stop_run_eq_none_iff : (run env w arguments).stop = none ↔
    ((session env arguments).outcome { workspace := w }).1 = .ok () := by
  rw [run, outcome]
  split <;> rename_i heq <;> simp [heq]

end Run

end SitePreview.Command
