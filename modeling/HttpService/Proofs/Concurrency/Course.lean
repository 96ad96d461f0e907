import HttpService.Proofs.Concurrency.Waiting

/-!
Contract: what a job comes to when it is started and waited for.

Owns:
- the course of a job: what it reaches, and when, whatever others do to the world;
- machines whose new identities are new;
- **the outcome of a job that is waited for** is one that its course reaches by the deadline,
  and without an outcome its course is still at rest then.

Does not own: what the job computes.
-/

namespace HttpService

variable {World α β : Type}

namespace Job

/-- The job that has come to an outcome. -/
def ofOutcome : Except Panic α → Job World α
  | .ok value => .done value
  | .error payload => .panic payload

/-- What a job that starts at a moment can have become at another one. The world that it
meets is whatever others have made of it. -/
inductive Reaches (job : Job World α) (start : Nat) : Job World α → Nat → Prop where
  | begin : Reaches job start job start
  | act {change : Nat → World → World} {next : Nat → World → Job World α} {now : Nat} :
      Reaches job start (.act change next) now → ∀ world, Reaches job start (next now world) now
  | sleep {wake since now : Nat} {next : Job World α} :
      Reaches job start (.sleep wake next) since → since ≤ now → wake ≤ now →
        Reaches job start next now

/-- What a job that starts at a moment may have come to by a deadline. -/
inductive Comes (job : Job World α) (start deadline : Nat) : Option (Except Panic α) → Prop where
  /-- Its outcome, in time. -/
  | ended {outcome : Except Panic α} {now : Nat} (during : During start deadline now)
      (reached : job.Reaches start (.ofOutcome outcome) now) :
      Comes job start deadline (some outcome)
  /-- Nothing, for it rests to the deadline or beyond. -/
  | resting {since wake : Nat} {next : Job World α}
      (reached : job.Reaches start (.sleep wake next) since) (beyond : deadline ≤ wake) :
      Comes job start deadline none
  /-- Nothing, for there was no time. -/
  | noTime (elapsed : deadline ≤ start) : Comes job start deadline none

theorem Reaches.of_outcome {outcome : Except Panic α} {start now : Nat} {rest : Job World α}
    (reached : Reaches (.ofOutcome outcome) start rest now) : rest = .ofOutcome outcome := by
  induction reached with
  | begin => rfl
  | act _ _ same => cases outcome <;> cases same
  | sleep _ _ _ same => cases outcome <;> cases same

theorem ofOutcome_inj {first second : Except Panic α}
    (same : (ofOutcome first : Job World α) = ofOutcome second) : first = second := by
  cases first <;> cases second <;> cases same <;> rfl

theorem Comes.of_outcome {outcome : Except Panic α} {start deadline : Nat}
    {came : Option (Except Panic α)}
    (comes : (ofOutcome outcome : Job World α).Comes start deadline came)
    (time : start < deadline) : came = some outcome := by
  cases comes with
  | ended during reached => rw [ofOutcome_inj reached.of_outcome]
  | resting reached beyond => cases outcome <;> cases reached.of_outcome
  | noTime elapsed => omega

end Job

namespace Discipline

/-- All identities are below a limit. -/
def below (limit : Nat) : Discipline World α where
  ready _ id _ := id < limit
  resting _ id _ _ := id < limit
  ended _ id _ := id < limit
  done known := known
  panic known := known
  act known _ := known
  sleep known := known
  rest known _ := known
  wake known _ := known

/-- The job of an identity is on its course. -/
def tracking (id start : Nat) (job : Job World α) : Discipline World α where
  ready now other rest := other = id → job.Reaches start rest now
  resting now other wake rest := other = id →
    ∃ since ≤ now, job.Reaches start (.sleep wake rest) since
  ended now other outcome := other = id → job.Reaches start (.ofOutcome outcome) now
  done reached := reached
  panic reached := reached
  act reached world same := (reached same).act world
  sleep reached same := ⟨_, Nat.le_refl _, reached same⟩
  rest := by
    intro now later other wake next resting after same
    obtain ⟨since, before, reached⟩ := resting same
    exact ⟨since, Nat.le_trans before after, reached⟩
  wake := by
    intro now other wake next resting elapsed same
    obtain ⟨since, before, reached⟩ := resting same
    exact reached.sleep before elapsed

end Discipline

namespace Machine

variable {machine : Machine World α}

/-- The identity of the next new job is that of no other. -/
def Fresh (machine : Machine World α) : Prop :=
  (Discipline.below machine.nextId).Holds machine

theorem fresh_start (world : World) : Fresh (α := α) (.start world) :=
  Discipline.holds_start world

theorem Fresh.report (fresh : Fresh machine) (level : LogLevel) (text : String) :
    Fresh (machine.report level text) :=
  Discipline.Holds.report fresh level text

theorem Fresh.reportAll (fresh : Fresh machine) (records : List LogRecord) :
    Fresh (machine.reportAll records) :=
  Discipline.Holds.reportAll fresh records

theorem Fresh.spawn (fresh : Fresh machine) (job : Job World α) : Fresh (machine.spawn job).2 := by
  have wider : (Discipline.below (machine.nextId + 1)).Holds machine := by
    refine ⟨?_, ?_, ?_⟩
    · exact fun task member => Nat.lt_succ_of_lt (fresh.ready task member)
    · exact fun task member => Nat.lt_succ_of_lt (fresh.interrupted task member)
    · exact fun sleeper member => Nat.lt_succ_of_lt (fresh.sleepers sleeper member)
  exact wider.spawn (Nat.lt_succ_self machine.nextId)

theorem Fresh.pass (fresh : Fresh machine) (awaited : Option Nat) (moment : Nat) (goesOn : Bool)
    (outcome : Option (Except Panic α)) :
    Fresh (machine.pass awaited moment goesOn outcome).2 := by
  unfold Fresh
  rw [nextId_pass]
  exact Discipline.Holds.pass fresh awaited moment goesOn outcome

theorem Fresh.giveWay (fresh : Fresh machine) (awaited : Option Nat) :
    Fresh (machine.giveWay awaited).2 := by
  unfold Machine.giveWay
  split
  · exact fresh.pass awaited machine.clock true none
  · exact fresh

theorem Fresh.spend (fresh : Fresh machine) : Fresh machine.spend :=
  Discipline.Holds.spend fresh

theorem Fresh.await (fresh : Fresh machine) (id deadline : Nat) :
    Fresh (machine.await id deadline).2 := by
  have given := fresh.giveWay (some id)
  unfold Machine.await
  simp only
  split
  · exact given.spend
  · exact (given.pass (some id) deadline false none).spend

theorem Fresh.waitWithin (fresh : Fresh machine) (moment : Option Nat) (deadline : Nat)
    (usedUp : Bool) : Fresh (machine.waitWithin moment deadline usedUp).2 := by
  have given : ∀ isInterrupted : Bool,
      Fresh (if isInterrupted then (machine.giveWay none).2 else machine) := by
    intro isInterrupted
    split
    · exact fresh.giveWay none
    · exact fresh
  unfold Machine.waitWithin
  simp only
  generalize (moment.isSome && !(!usedUp && decide (deadline ≤ machine.clock)) || usedUp) =
    isInterrupted
  have given := given isInterrupted
  revert given
  generalize (if isInterrupted = true then (machine.giveWay none).2 else machine) = begun
  intro given
  split
  · exact given.spend
  · split
    · exact given.spend
    · exact (given.pass none _ false none).spend

/-- A new job is on its course, and no other job has its identity. -/
theorem Fresh.tracking_spawn (fresh : Fresh machine) (job : Job World α) :
    (Discipline.tracking machine.nextId machine.clock job).Holds (machine.spawn job).2 := by
  -- The identity is new, so the discipline asks nothing of the others.
  have others : (Discipline.tracking machine.nextId machine.clock job).Holds machine := by
    refine ⟨?_, ?_, ?_⟩
    · intro task member same
      exact absurd same (Nat.ne_of_lt (fresh.ready task member))
    · intro task member same
      exact absurd same (Nat.ne_of_lt (fresh.interrupted task member))
    · intro sleeper member same
      exact absurd same (Nat.ne_of_lt (fresh.sleepers sleeper member))
  exact others.spawn fun _ => .begin

/-- Starts a job and waits for it, but not beyond a deadline. -/
def attempt (machine : Machine World α) (job : Job World α) (deadline : Nat) :
    Option (Except Panic α) × Machine World α :=
  (machine.spawn job).2.await (machine.spawn job).1 deadline

theorem Fresh.attempt (fresh : Fresh machine) (job : Job World α) (deadline : Nat) :
    Fresh (machine.attempt job deadline).2 :=
  (fresh.spawn job).await _ deadline

/-- **What a job is found to have come to is what its course allows.** -/
theorem Fresh.comes_attempt (fresh : Fresh machine) (job : Job World α) (deadline : Nat) :
    job.Comes machine.clock deadline (machine.attempt job deadline).1 := by
  have tracked := fresh.tracking_spawn job
  cases result : (machine.attempt job deadline).1 with
  | some outcome =>
      obtain ⟨now, during, ended⟩ := ended_of_await tracked result
      exact .ended during (ended rfl)
  | none =>
      rcases resting_of_await tracked (present_spawn machine job) result with
        elapsed | ⟨now, wake, next, _, beyond, resting⟩
      · exact .noTime elapsed
      · obtain ⟨since, _, reached⟩ := resting rfl
        exact .resting reached beyond

theorem clock_attempt {job : Job World α} {deadline : Nat}
    (late : (machine.attempt job deadline).1 = none) :
    (machine.attempt job deadline).2.clock = max machine.clock deadline :=
  clock_await late

end Machine

end HttpService
