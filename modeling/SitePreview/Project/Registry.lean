import SitePreview.Project.Actor
import SitePreview.Settings.Basic

/-! Registries: a registry hands out the actor of each project and starts one where there is none
that is open. All its actors share one store, one cache and one clock. -/

-- The zero of sums is that of the core library, beside Mathlib too.
attribute [local instance (2000)] Zero.ofOfNat0

namespace SitePreview

/-- A registry: all actors it ever started, by number, the number of the last one started for each
project that it has not forgotten, and the ticket of the next message. -/
structure Registry where
  setup : ProjectSetup := {}
  backend : Backend
  actors : List Actor := []
  known : List (Text × Nat) := []
  nextTicket : Ticket := 0

namespace Registry

/-- The registry that settings ask for, over an empty database. -/
def ofSettings (s : Settings) (now : Timestamp) : Registry :=
  { setup := {
      limits := ⟨s.historyDefaultLimit, s.historyMaxLimit⟩
      options := s.previewOptions "Preview" }
    backend := {
      cache := some { policy := s.cachePolicy }
      clock := { now := now } } }

def size (r : Registry) : Nat := r.known.length

def contains (r : Registry) (project : Text) : Bool := (r.known.lookup project).isSome

/-- The registry with an actor changed. -/
def setActor (r : Registry) (n : Nat) (a : Actor) : Registry :=
  { r with actors := r.actors.set n a }

/-- The entries with the number of a project set. -/
def setNumber (project : Text) (n : Nat) : List (Text × Nat) → List (Text × Nat)
  | [] => [(project, n)]
  | (p, k) :: es => if p = project then (p, n) :: es else (p, k) :: setNumber project n es

/-- The number of the open actor that the registry has for a project. -/
def open? (r : Registry) (project : Text) : Option Nat :=
  (r.known.lookup project).filter fun n =>
    match r.actors[n]? with
    | some a => !a.closed
    | none => false

/-- The number of the actor of a project, which is started if need be. -/
def get (r : Registry) (project : Text) : Except ProjectError (Nat × Registry) :=
  if project = [] then .error .emptyId
  else
    match r.open? project with
    | some n => .ok (n, r)
    | none =>
      let n := r.actors.length
      .ok (n, { r with
        actors := r.actors ++ [{ project := project }]
        known := setNumber project n r.known })

def closeActor (r : Registry) (n : Nat) : Registry :=
  { r with actors := r.actors.modify n Actor.close }

/-- Forgets the actor of a project and closes it. -/
def release (r : Registry) (project : Text) : Registry :=
  match r.known.lookup project with
  | none => r
  | some n =>
    { r.closeActor n with known := r.known.filter fun e => e.1 ≠ project }

/-- Forgets all actors and closes them. -/
def close (r : Registry) : Registry :=
  { (r.known.foldl (fun r e => r.closeActor e.2) r) with known := [] }

/-- The ticket of a message to an actor that was handed out before, where it waits for its turn; or
why it is not accepted. -/
def send (r : Registry) (n : Nat) (op : Operation) : Except ProjectError Ticket × Registry :=
  match op.check, r.actors[n]? with
  | .error e, _ => (.error e, r)
  | .ok _, none => (.error (.closed []), r)
  | .ok _, some a =>
    match a.submit ⟨r.nextTicket, op.routine r.setup a.project⟩ with
    | .error e => (.error e, r)
    | .ok a => (.ok r.nextTicket, { r.setActor n a with nextTicket := r.nextTicket + 1 })

/-- Sends a message to the actor of a project. -/
def submit (r : Registry) (project : Text) (op : Operation) :
    Except ProjectError Ticket × Registry :=
  match r.get project with
  | .error e => (.error e, r)
  | .ok (n, r) => r.send n op

/-- The caller with this ticket has given up. -/
def cancel (r : Registry) (ticket : Ticket) : Registry :=
  { r with actors := r.actors.map fun a => a.cancel ticket }

def turn (r : Registry) (n : Nat) : Registry × Actor.Answers :=
  match r.actors[n]? with
  | none => (r, [])
  | some a =>
    let (a, b, answers) := a.turn r.backend
    ({ r.setActor n a with backend := b }, answers)

/-- One turn of every actor in the order in which they were started. -/
def round (r : Registry) : Registry × Actor.Answers :=
  (List.range r.actors.length).foldl (fun (r, answers) n =>
    let (r, more) := r.turn n
    (r, answers ++ more)) (r, [])

def isIdle (r : Registry) : Bool := r.actors.all Actor.isIdle

/-- Rounds until all actors are idle. -/
def drain (r : Registry) : Nat → Registry × Actor.Answers
  | 0 => (r, [])
  | fuel + 1 =>
    if r.isIdle then (r, [])
    else
      let (r, answers) := r.round
      let (r, more) := r.drain fuel
      (r, answers ++ more)

/-- A bound for the number of rounds: no routine makes more than four store calls. -/
def roundBound (r : Registry) : Nat :=
  (r.actors.map fun a => 5 * (a.queue.length + 1)).sum + 1

/-- Rounds until all messages are answered. -/
def settle (r : Registry) : Registry × Actor.Answers := r.drain r.roundBound

/-- Rounds until an actor waits for one side of the store, or all are idle. -/
def drainUntil (part : StorePart) (r : Registry) : Nat → Registry × Actor.Answers
  | 0 => (r, [])
  | fuel + 1 =>
    if r.isIdle || r.actors.any (fun a => a.waitsFor? = some part) then (r, [])
    else
      let (r, answers) := r.round
      let (r, more) := drainUntil part r fuel
      (r, answers ++ more)

/-- An operation that is run to its end while no other is under way. -/
def perform (r : Registry) (project : Text) (op : Operation) : Outcome × Registry :=
  match r.get project with
  | .error e => (.error e, r)
  | .ok (n, r) =>
    match op.check with
    | .error e => (.error e, r)
    | .ok _ =>
      match r.actors[n]? with
      | none => (.error (.closed project), r)
      | some a =>
        let (outcome, m, b) := (op.routine r.setup project).run a.memory r.backend
        (outcome, { r.setActor n { a with memory := m } with backend := b })

/-- A routine of the shared state, which no actor runs. -/
def runShared {α : Type} (r : Registry) (routine : Routine α) :
    Except ProjectError α × Registry :=
  let (outcome, _, b) := routine.run {} r.backend
  (outcome, { r with backend := b })

end Registry

end SitePreview
