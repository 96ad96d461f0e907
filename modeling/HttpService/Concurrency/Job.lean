/-!
Contract: computations of the application, which may wait and may give up.

Owns:
- panics, which end a computation without a result;
- actions, which run at one moment;
- jobs, which change a world and sleep in between, and how far a job gets in one
  turn;
- what remains of a job after a turn, which is a part of it.

Does not own: the clock, and the order in which jobs run.
-/

namespace HttpService

/-- What a computation leaves when it gives up: a text, or something that is none. -/
structure Panic where
  text : Option String
deriving DecidableEq, Repr

def Panic.message (panic : Panic) : String :=
  panic.text.getD "unknown panic"

/-- A computation that runs at one moment: it sees the time, may change the world
and may panic. -/
abbrev Action (World α : Type) := Nat → World → Except Panic α × World

namespace Action

variable {World α β : Type}

def pure (value : α) : Action World α :=
  fun _ world => (.ok value, world)

def panic (payload : Panic) : Action World α :=
  fun _ world => (.error payload, world)

/-- One action after another, at the same moment; a panic ends both. -/
def bind (action : Action World α) (next : α → Action World β) : Action World β :=
  fun now world =>
    match action now world with
    | (.ok value, world) => next value now world
    | (.error payload, world) => (.error payload, world)

def map (change : α → β) (action : Action World α) : Action World β :=
  action.bind fun value => pure (change value)

end Action

/-- No rest for a given span is longer than this: thirty years of 365 days, in
milliseconds. -/
def longestRest : Nat := 946080000000

/-- How long a rest for a given span takes. -/
def restSpan (span : Nat) : Nat :=
  min span longestRest

/-- A computation that may wait. Times are milliseconds of a common clock. -/
inductive Job (World α : Type) where
  | done (value : α)
  /-- The end without a result. -/
  | panic (payload : Panic)
  /-- A change of the world at the current time, and how to go on; both see the
  time and the world before the change. -/
  | act (change : Nat → World → World) (next : Nat → World → Job World α)
  | sleep (wake : Nat) (next : Job World α)

namespace Job

variable {World α β : Type}

def bind : Job World α → (α → Job World β) → Job World β
  | done value, next => next value
  | panic payload, _ => panic payload
  | act change go, next => act change fun now world => (go now world).bind next
  | sleep wake go, next => sleep wake (go.bind next)

instance : Monad (Job World) where
  pure := done
  bind := bind

def now : Job World Nat :=
  act (fun _ world => world) fun now _ => done now

def modify (change : World → World) : Job World Unit :=
  act (fun _ world => change world) fun _ _ => done ()

def sleepUntil (wake : Nat) : Job World Unit :=
  sleep wake (done ())

def sleepFor (span : Nat) : Job World Unit :=
  act (fun _ world => world) fun now _ => sleepUntil (now + restSpan span)

def ofAction (action : Action World α) : Job World α :=
  act (fun now world => (action now world).2) fun now world =>
    match (action now world).1 with
    | .ok value => done value
    | .error payload => panic payload

/-- How far a job gets in one turn. -/
inductive Progress (World α : Type) where
  | finished (value : α)
  | panicked (payload : Panic)
  /-- It rests until a moment, and then goes on with the job. -/
  | asleep (wake : Nat) (next : Job World α)
  /-- It has used up its turn, and goes on with the job in another one. -/
  | interrupted (next : Job World α)

/-- The outcome, if the job has ended. -/
def Progress.outcome? : Progress World α → Option (Except Panic α)
  | finished value => some (.ok value)
  | panicked payload => some (.error payload)
  | asleep .. => none
  | interrupted _ => none

/-- What remains of the job, if it has not ended. -/
def Progress.rest? : Progress World α → Option (Job World α)
  | finished _ => none
  | panicked _ => none
  | asleep _ next => some next
  | interrupted next => some next

/-- Runs a job at one moment, until it ends, rests beyond that moment, or comes to a
rest after `allowance` rests were over at once. -/
def run (now allowance : Nat) : Job World α → World → Progress World α × World
  | done value, world => (.finished value, world)
  | panic payload, world => (.panicked payload, world)
  | act change next, world => (next now world).run now allowance (change now world)
  | sleep wake next, world =>
      match allowance with
      | 0 => (.interrupted (sleep wake next), world)
      | allowance + 1 =>
          if wake ≤ now then next.run now allowance world else (.asleep wake next, world)

/-- What a job goes on with behind its first constructor. -/
inductive Next : Job World α → Job World α → Prop where
  | act (change : Nat → World → World) (next : Nat → World → Job World α) (now : Nat)
      (world : World) : Next (next now world) (.act change next)
  | sleep (wake : Nat) (next : Job World α) : Next next (.sleep wake next)

/-- What a job goes on with at some time. -/
abbrev Part : Job World α → Job World α → Prop := Relation.TransGen Next

/-- Every job comes to an end. -/
theorem part_wellFounded : WellFounded (@Part World α) := by
  refine WellFounded.transGen ⟨fun job => ?_⟩
  induction job with
  | done value => exact ⟨_, fun _ next => nomatch next⟩
  | panic payload => exact ⟨_, fun _ next => nomatch next⟩
  | act change go inductionHypothesis =>
      refine ⟨_, fun _ next => ?_⟩
      cases next with
      | act _ _ now world => exact inductionHypothesis now world
  | sleep wake go inductionHypothesis =>
      refine ⟨_, fun _ next => ?_⟩
      cases next with
      | sleep => exact inductionHypothesis

/-- What remains after a turn is a part of the job, unless the job could not even begin. -/
theorem part_or_eq_of_run {now allowance : Nat} {job rest : Job World α} {world : World}
    (remains : (job.run now allowance world).1.rest? = some rest) :
    Part rest job ∨ allowance = 0 ∧ rest = job := by
  induction job generalizing world allowance with
  | done value => simp [run, Progress.rest?] at remains
  | panic payload => simp [run, Progress.rest?] at remains
  | act change go inductionHypothesis =>
      rcases inductionHypothesis now world remains with part | ⟨_, rfl⟩
      · exact .inl (part.tail (.act change go now world))
      · exact .inl (.single (.act change go now world))
  | sleep wake go inductionHypothesis =>
      cases allowance with
      | zero =>
          simp only [run, Progress.rest?, Option.some.injEq] at remains
          exact .inr ⟨rfl, remains.symm⟩
      | succ allowance =>
          simp only [run] at remains
          split at remains
          · rcases inductionHypothesis remains with part | ⟨_, rfl⟩
            · exact .inl (part.tail (.sleep wake go))
            · exact .inl (.single (.sleep wake _))
          · simp only [Progress.rest?, Option.some.injEq] at remains
            exact remains ▸ .inl (.single (.sleep wake go))

/-- What remains after a turn in which something may be done is a part of the job. -/
theorem part_of_run {now allowance : Nat} {job rest : Job World α} {world : World}
    (remains : (job.run now (allowance + 1) world).1.rest? = some rest) : Part rest job := by
  rcases part_or_eq_of_run remains with part | ⟨never, _⟩
  · exact part
  · cases never

end Job

end HttpService
