import HttpService.Concurrency.Descent
import HttpService.Concurrency.Job
import HttpService.Log

/-!
Contract: the clock, the world, and the jobs that take turns with one caller.

Owns:
- the order of turns: jobs come to their turn in the order in which they became ready,
  the caller after every round of turns;
- how much may be done in one turn, by a job and by the caller;
- the clock, which moves to the next moment that somebody rests to when nobody is ready;
- waiting for a moment, and waiting for a job no longer than to a deadline;
- what is reported on the way.

Does not own: what jobs compute. At a moment to which the caller and jobs rest, the
caller goes on first; a job that is waited for and not ready in time goes on by itself.
-/

namespace HttpService

/-- How many waits may be over at once in one turn. -/
def turnAllowance : Nat := 128

/-- How many jobs come to their turn in one round. -/
def roundLength : Nat := 61

structure Task (World α : Type) where
  id : Nat
  job : Job World α
  /-- Whether it has been at rest. The end of a rest counts as a wait. -/
  rested : Bool

/-- How many waits beyond the first may be over at once in the turn of a task. -/
def Task.spare {World α : Type} (task : Task World α) : Nat :=
  if task.rested then turnAllowance - 2 else turnAllowance - 1

structure Sleeper (World α : Type) where
  id : Nat
  wake : Nat
  job : Job World α

structure Machine (World α : Type) where
  /-- The current time in milliseconds. -/
  clock : Nat
  world : World
  /-- How many turns are left in the round. -/
  turns : Nat
  /-- Jobs that are ready, in the order of their turns. -/
  ready : List (Task World α)
  /-- Jobs that have used up their turn in this round, the last one first. -/
  interrupted : List (Task World α)
  /-- Jobs at rest, in the order in which they came to rest. -/
  sleepers : List (Sleeper World α)
  /-- How many waits of the caller may be over at once in its turn. -/
  allowance : Nat
  /-- The identity of the next new job. -/
  nextId : Nat
  log : List LogRecord

namespace Machine

variable {World α β γ : Type}

/-- A machine at time zero, with the caller in its turn. -/
def start (world : World) : Machine World α :=
  ⟨0, world, roundLength, [], [], [], turnAllowance, 0, []⟩

def report (machine : Machine World α) (level : LogLevel) (text : String) : Machine World α :=
  { machine with log := machine.log ++ [⟨level, text⟩] }

def reportAll (machine : Machine World α) (records : List LogRecord) : Machine World α :=
  { machine with log := machine.log ++ records }

def perform (machine : Machine World α) (action : Action World β) :
    Except Panic β × Machine World α :=
  let (result, world) := action machine.clock machine.world
  (result, { machine with world := world })

/-- Goes on with what a step has given; a panic of the step is the end. -/
def andThen (step : Except Panic β × Machine World α)
    (next : β → Machine World α → Except Panic γ × Machine World α) :
    Except Panic γ × Machine World α :=
  match step with
  | (.ok value, machine) => next value machine
  | (.error payload, machine) => (.error payload, machine)

/-- Starts a job, which comes to its turn when the caller waits. -/
def spawn (machine : Machine World α) (job : Job World α) : Nat × Machine World α :=
  (machine.nextId,
    { machine with
      ready := machine.ready ++ [⟨machine.nextId, job, false⟩]
      nextId := machine.nextId + 1 })

/-! ### Turns -/

/-- What is still to be done by jobs. -/
def work (machine : Machine World α) : List (Job World α) :=
  machine.ready.map (·.job) ++ machine.interrupted.map (·.job) ++ machine.sleepers.map (·.job)

/-- The job whose turn it is in this round, and the machine without it. -/
def next? (machine : Machine World α) : Option (Task World α × Machine World α) :=
  match machine.turns, machine.ready with
  | turns + 1, task :: ready => some (task, { machine with turns := turns, ready := ready })
  | _, _ => none

/-- A new round: who has used up a turn in the last one is ready again, behind all that
is ready already. -/
def newRound (machine : Machine World α) : Machine World α :=
  { machine with
    turns := roundLength
    ready := machine.ready ++ machine.interrupted
    interrupted := [] }

/-- Moves the clock to a moment; who rests to it is ready. -/
def moveTo (moment : Nat) (machine : Machine World α) : Machine World α :=
  let due := machine.sleepers.filter fun sleeper => decide (sleeper.wake ≤ moment)
  { machine with
    clock := max machine.clock moment
    ready := machine.ready ++ due.map fun sleeper => ⟨sleeper.id, sleeper.job, true⟩
    sleepers := machine.sleepers.filter fun sleeper => !decide (sleeper.wake ≤ moment) }

/-- The first moment that a job rests to. -/
def firstWake? (machine : Machine World α) : Option Nat :=
  (machine.sleepers.map (·.wake)).min?

/-- Moves the clock to the first moment that a job rests to, if it is before `limit`. -/
def moveBefore (limit : Nat) (machine : Machine World α) : Machine World α :=
  match machine.firstWake? with
  | some wake => if wake < limit then machine.moveTo wake else machine
  | none => machine

/-- The job whose turn it is while the caller waits for a moment, in this round or in the
next one; none when the caller comes to its turn. A caller that has reason to go on does
so after this round. -/
def nextTurn? (moment : Nat) (goesOn : Bool) (machine : Machine World α) :
    Option (Task World α × Machine World α) :=
  match machine.next? with
  | some turn => some turn
  | none =>
      if goesOn then none
      else
        match machine.newRound.next? with
        | some turn => some turn
        | none => (machine.newRound.moveBefore moment).next?

/-- What a machine becomes when a task has had its turn. -/
def settle (machine : Machine World α) (task : Task World α) (progress : Job.Progress World α)
    (world : World) : Machine World α :=
  match progress with
  | .asleep wake job =>
      { machine with
        world := world
        sleepers := machine.sleepers ++ [⟨task.id, wake, job⟩] }
  | .interrupted job =>
      { machine with
        world := world
        interrupted := ⟨task.id, job, false⟩ :: machine.interrupted }
  | _ => { machine with world := world }

/-- Gives a task its turn: how far it gets, and the machine afterwards. -/
def takeTurn (machine : Machine World α) (task : Task World α) :
    Job.Progress World α × Machine World α :=
  let (progress, world) := task.job.run machine.clock (task.spare + 1) machine.world
  (progress, machine.settle task progress world)

/-! ### Turns make the work less -/

theorem work_next? {machine after : Machine World α} {task : Task World α}
    (next : machine.next? = some (task, after)) :
    machine.work.Perm (task.job :: after.work) := by
  simp only [next?] at next
  split at next
  · rename_i turns first others _ ready
    simp only [Option.some.injEq, Prod.mk.injEq] at next
    obtain ⟨rfl, rfl⟩ := next
    simp [work, ready]
  · cases next

theorem work_newRound (machine : Machine World α) : machine.newRound.work = machine.work := by
  simp [work, newRound]

theorem work_moveTo (moment : Nat) (machine : Machine World α) :
    (machine.moveTo moment).work.Perm machine.work := by
  simp only [work, moveTo, List.map_append, List.map_map, List.append_assoc]
  refine List.Perm.append_left _ ?_
  have split := List.filter_append_perm (fun sleeper => decide (sleeper.wake ≤ moment))
    machine.sleepers
  have jobs := split.map (·.job)
  rw [List.map_append] at jobs
  exact (List.perm_append_comm_assoc _ _ _).trans (jobs.append_left _)

theorem work_moveBefore (limit : Nat) (machine : Machine World α) :
    (machine.moveBefore limit).work.Perm machine.work := by
  simp only [moveBefore]
  split
  · split
    · exact work_moveTo _ machine
    · exact .refl _
  · exact .refl _

theorem work_nextTurn? {moment : Nat} {goesOn : Bool} {machine after : Machine World α}
    {task : Task World α} (next : machine.nextTurn? moment goesOn = some (task, after)) :
    machine.work.Perm (task.job :: after.work) := by
  simp only [nextTurn?] at next
  split at next
  · rename_i found
    exact work_next? (found.trans next)
  · split at next
    · cases next
    · split at next
      · rename_i found
        exact work_newRound machine ▸ work_next? (found.trans next)
      · have moved := work_moveBefore moment machine.newRound
        rw [work_newRound] at moved
        exact moved.symm.trans (work_next? next)

/-- A turn makes the work less. -/
theorem descent_takeTurn {machine before : Machine World α} {task : Task World α}
    (taken : before.work.Perm (task.job :: machine.work)) :
    Descent Job.Part (machine.takeTurn task).2.work before.work := by
  simp only [takeTurn, settle]
  split
  · rename_i wake job result
    refine .reduce (Job.part_of_run (by rw [result]; rfl)) taken ?_
    simp only [work, List.map_append, List.map_cons, List.map_nil, ← List.append_assoc]
    exact List.perm_append_singleton _ _
  · rename_i job result
    refine .reduce (Job.part_of_run (by rw [result]; rfl)) taken ?_
    simp only [work, List.map_cons, List.append_assoc, List.cons_append]
    exact List.perm_middle
  · exact .finish taken

/-- Work that gets less in every turn. -/
structure Workload (World α : Type) where
  jobs : List (Job World α)

instance : WellFoundedRelation (Workload World α) where
  rel after before := Descent Job.Part after.jobs before.jobs
  wf := InvImage.wf Workload.jobs (Descent.wellFounded Job.part_wellFounded)

/-! ### The caller -/

/-- Lets jobs take turns until the caller comes to its own: when a moment comes, after
the round in which the job ends that it waits for, or after this round if it has reason
to go on. Also gives the outcome of that job. -/
def pass (awaited : Option Nat) (moment : Nat) (goesOn : Bool)
    (outcome : Option (Except Panic α)) (machine : Machine World α) :
    Option (Except Panic α) × Machine World α :=
  match _turn : machine.nextTurn? moment goesOn with
  | none =>
      (outcome,
        { (if goesOn then machine.newRound else machine.newRound.moveTo moment) with
          allowance := turnAllowance })
  | some (task, rest) =>
      match _taken : rest.takeTurn task with
      | (progress, after) =>
          match progress.outcome? with
          | none => pass awaited moment goesOn outcome after
          | some ended =>
              if awaited = some task.id then pass awaited moment true (some ended) after
              else pass awaited moment goesOn outcome after
termination_by (⟨machine.work⟩ : Workload World α)
decreasing_by
  all_goals
    have less := descent_takeTurn (work_nextTurn? _turn)
    rw [_taken] at less
    exact less

/-- One wait of the caller that is over at once. -/
def spend (machine : Machine World α) : Machine World α :=
  { machine with allowance := machine.allowance - 1 }

/-- Interrupts the caller for one round, if it may do nothing more in its turn. Also
gives the outcome of a job that ends meanwhile. -/
def giveWay (awaited : Option Nat) (machine : Machine World α) :
    Option (Except Panic α) × Machine World α :=
  if machine.allowance = 0 then machine.pass awaited machine.clock true none else (none, machine)

/-- A wait for something that is there. -/
def enter (machine : Machine World α) : Machine World α :=
  (machine.giveWay none).2.spend

def waitUntil (moment : Nat) (machine : Machine World α) : Machine World α :=
  let machine := (machine.giveWay none).2
  if moment ≤ machine.clock then machine.spend
  else (machine.pass none moment false none).2.spend

def waitFor (span : Nat) (machine : Machine World α) : Machine World α :=
  machine.waitUntil (machine.clock + restSpan span)

/-- Waits for a job, but not beyond a deadline: the outcome of the job, or none. -/
def await (id deadline : Nat) (machine : Machine World α) :
    Option (Except Panic α) × Machine World α :=
  let (outcome, machine) := machine.giveWay (some id)
  if outcome.isSome ∨ deadline ≤ machine.clock then (outcome, machine.spend)
  else
    let (outcome, machine) := machine.pass (some id) deadline false none
    (outcome, machine.spend)

/-- Waits for a moment, or for nothing at all, but not beyond a deadline: whether the
moment has come. A caller that uses up its turn on the way still sees that the deadline
has passed, but not if it had used it up before. -/
def waitWithin (moment : Option Nat) (deadline : Nat) (usedUp : Bool)
    (machine : Machine World α) : Bool × Machine World α :=
  let seesDeadline := !usedUp && decide (deadline ≤ machine.clock)
  let isInterrupted := (moment.isSome && !seesDeadline) || usedUp
  let machine := if isInterrupted then (machine.giveWay none).2 else machine
  let reached := fun (machine : Machine World α) => moment.any (· ≤ machine.clock)
  if reached machine = true ∧ machine.allowance ≠ 0 then (true, machine.spend)
  else if deadline ≤ machine.clock then (false, machine.spend)
  else
    let machine := (machine.pass none (min deadline (moment.getD deadline)) false none).2
    (reached machine, machine.spend)

end Machine

end HttpService
