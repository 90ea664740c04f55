import SitePreview.Project.Operation

/-! Actors: an actor answers the messages about one project one at a time, in the order in which
they were accepted. It takes turns with others at store calls alone. A caller that gives up before
its message is taken leaves no trace; one that gives up later only misses the answer. -/

namespace SitePreview

/-- What a message ends with. -/
abbrev Outcome := Except ProjectError Answer

/-- The number of an accepted message, by which its caller knows the answer. -/
abbrev Ticket := Nat

structure Job where
  ticket : Ticket
  routine : Routine Answer

/-- An actor: what it remembers, the messages that wait, the one that stands at a store call, and
the tickets of callers that have given up. A closed actor accepts no more messages. -/
structure Actor where
  project : Text
  memory : Memory := {}
  queue : List Job := []
  current : Option Job := none
  cancelled : List Ticket := []
  closed : Bool := false

namespace Actor

/-- The actor has nothing to do. -/
def isIdle (a : Actor) : Bool := a.queue.isEmpty && a.current.isNone

/-- The actor with a message accepted. -/
def submit (a : Actor) (job : Job) : Except ProjectError Actor :=
  if a.closed then .error (.closed a.project) else .ok { a with queue := a.queue ++ [job] }

/-- The caller with this ticket has given up. -/
def cancel (a : Actor) (ticket : Ticket) : Actor :=
  { a with cancelled := ticket :: a.cancelled }

/-- The actor accepts no more messages; those it has accepted are still answered. -/
def close (a : Actor) : Actor := { a with closed := true }

/-- The answers of one turn. -/
abbrev Answers := List (Ticket × Outcome)

/-- The answer of an ended routine to a caller that still waits. -/
def answerOf (cancelled : List Ticket) (job : Job) : Answers :=
  if cancelled.contains job.ticket then []
  else
    match job.routine with
    | .done answer => [(job.ticket, .ok answer)]
    | .fail e => [(job.ticket, .error e)]
    | _ => []

/-- Takes waiting messages one after another until one stands at a store call. -/
def takeJobs (a : Actor) (b : Backend) : List Job → Actor × Backend × Answers
  | [] => ({ a with queue := [], current := none }, b, [])
  | job :: jobs =>
    if a.cancelled.contains job.ticket then takeJobs a b jobs
    else
      let (routine, m, b) := job.routine.settle a.memory b
      let job := { job with routine := routine }
      let a := { a with memory := m }
      match routine.pending? with
      | some _ => ({ a with queue := jobs, current := some job }, b, [])
      | none =>
        let (a, b, answers) := takeJobs a b jobs
        (a, b, answerOf a.cancelled job ++ answers)

/-- The routine behind its store call, up to the next one. -/
def resume (m : Memory) (b : Backend) : Routine Answer → Routine Answer × Memory × Backend
  | .call c next =>
    let (reply, b) := b.perform c
    (next reply).settle m b
  | r => r.settle m b

/-- One turn: the store call at which the actor stands is made, and the actor goes on until it
stands at the next one or has nothing to do. -/
def turn (a : Actor) (b : Backend) : Actor × Backend × Answers :=
  match a.current with
  | none => takeJobs a b a.queue
  | some job =>
    let (routine, m, b) := resume a.memory b job.routine
    let job := { job with routine := routine }
    let a := { a with memory := m }
    match routine.pending? with
    | some _ => ({ a with current := some job }, b, [])
    | none =>
      let (a, b, answers) := takeJobs a b a.queue
      (a, b, answerOf a.cancelled job ++ answers)

/-- The side of the store whose call the actor waits for. -/
def waitsFor? (a : Actor) : Option StorePart :=
  (a.current.bind fun job => job.routine.pending?).map fun c => c.method.part

end Actor

end SitePreview
