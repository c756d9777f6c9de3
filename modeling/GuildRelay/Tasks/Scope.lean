/-!
# Background tasks

A `TaskScope` holds the tasks that run in the background until they end or the scope is shut down.
A task may first wait for the shutdown; then it sleeps for a while and ends. Time passes only while
the owner of the scope waits, and only then do tasks run: whatever becomes due at the very moment
when the owner goes on is left for its next wait.
-/

namespace GuildRelay

/-- How far a task has come. -/
inductive TaskStage where
  /-- It has not run yet. -/
  | fresh
  /-- It waits for the shutdown. -/
  | awaiting
  /-- It sleeps until a moment. -/
  | sleeping (due : Nat)
deriving DecidableEq, Repr

/-- A task of a scope, with times in milliseconds. -/
structure BackgroundTask where
  /-- How long it sleeps before it ends. -/
  duration : Nat
  /-- It waits for the shutdown before it sleeps. -/
  awaitsShutdown : Bool
  stage : TaskStage := .fresh
deriving DecidableEq, Repr

namespace BackgroundTask

/-- The task after it was given a chance to run. -/
def step (isShutdown : Bool) (now : Nat) (t : BackgroundTask) : BackgroundTask :=
  let goesOn := isShutdown || !t.awaitsShutdown
  match t.stage with
  | .sleeping _ => t
  | _ => { t with stage := if goesOn then .sleeping (now + t.duration) else .awaiting }

/-- When the task ends. -/
def due? (t : BackgroundTask) : Option Nat :=
  match t.stage with
  | .sleeping due => some due
  | _ => none

end BackgroundTask

/-- The tasks of a scope and those that have ended. -/
structure TaskScope where
  /-- The time in milliseconds. -/
  now : Nat := 0
  tasks : List BackgroundTask := []
  isShutdown : Bool := false
  /-- How many tasks have ended. -/
  ended : Nat := 0
  /-- How many of them ended after the shutdown. -/
  endedLate : Nat := 0
deriving DecidableEq, Repr

namespace TaskScope

/-- Adds a task. After the shutdown none is added. -/
def spawn (s : TaskScope) (duration : Nat) (awaitsShutdown : Bool) : TaskScope :=
  if s.isShutdown then s else { s with tasks := s.tasks ++ [{ duration, awaitsShutdown }] }

/-- Ends the tasks whose time is among those given. -/
def finish (s : TaskScope) (isDue : Nat → Bool) : TaskScope :=
  let (done, tasks) := s.tasks.partition fun t => t.due?.any isDue
  let late := if s.isShutdown then done.length else 0
  { s with tasks, ended := s.ended + done.length, endedLate := s.endedLate + late }

/-- All that can happen without time passing. -/
def settle (s : TaskScope) : TaskScope :=
  let tasks := s.tasks.map (·.step s.isShutdown s.now)
  { s with tasks }.finish (· ≤ s.now)

/-- The moment when the last of the sleeping tasks ends. -/
def lastDue (s : TaskScope) : Nat :=
  (s.tasks.filterMap (·.due?)).foldl max s.now

/-- The owner waits until a moment. -/
def runUntil (s : TaskScope) (moment : Nat) : TaskScope :=
  if moment ≤ s.now then s else { s.settle.finish (· < moment) with now := moment }

/-- The owner waits for some milliseconds. -/
def sleep (s : TaskScope) (duration : Nat) : TaskScope :=
  s.runUntil (s.now + duration)

/-- The owner waits until no task is left that ends without a shutdown. -/
def idle (s : TaskScope) : TaskScope :=
  let s := s.settle
  { s.finish (fun _ => true) with now := s.lastDue }

/-- Asks all tasks to end and waits for them, but no longer than some milliseconds. Tells whether
all have ended. -/
def shutdown (s : TaskScope) (timeout : Nat) : Bool × TaskScope :=
  let s := { s with isShutdown := true }
  let after := s.sleep timeout
  if s.tasks.isEmpty then (true, s)
  else if after.tasks.isEmpty then (true, { after with now := s.settle.lastDue })
  else (false, after)

end TaskScope

end GuildRelay
