import Mathlib.Data.List.Forall2
import HttpService.Proofs.Concurrency.Performing

/-!
Contract: two machines whose jobs do the same.

Owns:
- actions that make the same changes, with related values;
- jobs that make the same changes and take the same rests, with related values;
- machines that differ only in such jobs, and in what has been reported;
- **such machines stay in step**: whatever the caller waits for, the waits take the same turns
  and come to related outcomes.

Does not own: which jobs do the same.
-/

namespace HttpService

variable {World α β γ δ : Type}

/-- Related values, or the same panic. -/
inductive SameEnd (related : α → β → Prop) : Except Panic α → Except Panic β → Prop where
  | value {first : α} {second : β} (same : related first second) :
      SameEnd related (.ok first) (.ok second)
  | panic (payload : Panic) : SameEnd related (.error payload) (.error payload)

/-! ## Actions -/

namespace Action

/-- Two actions that do the same, and end with related values. -/
def Matches (related : α → β → Prop) (action : Action World α) (other : Action World β) : Prop :=
  ∀ now world, SameEnd related (action now world).1 (other now world).1 ∧
    (other now world).2 = (action now world).2

theorem matches_pure {related : α → β → Prop} {first : α} {second : β}
    (same : related first second) :
    (pure first : Action World α).Matches related (pure second) :=
  fun _ _ => ⟨.value same, rfl⟩

theorem Matches.refl {related : α → α → Prop} (reflexive : ∀ value, related value value)
    (action : Action World α) : action.Matches related action := by
  intro now world
  refine ⟨?_, rfl⟩
  cases (action now world).1 with
  | ok value => exact .value (reflexive value)
  | error payload => exact .panic payload

theorem Matches.bind {related : α → β → Prop} {after : γ → δ → Prop} {action : Action World α}
    {other : Action World β} {next : α → Action World γ} {further : β → Action World δ}
    (first : action.Matches related other)
    (second : ∀ value twin, related value twin → (next value).Matches after (further twin)) :
    (action.bind next).Matches after (other.bind further) := by
  intro now world
  obtain ⟨ends, worlds⟩ := first now world
  cases acted : action now world with
  | mk ended left =>
      cases otherActed : other now world with
      | mk otherEnded otherLeft =>
          rw [acted, otherActed] at ends worlds
          cases worlds
          cases ends with
          | value same =>
              rw [bind_of_ok acted, bind_of_ok otherActed]
              exact second _ _ same now left
          | panic payload =>
              rw [bind_of_error acted, bind_of_error otherActed]
              exact ⟨.panic payload, rfl⟩

end Action

/-! ## Jobs -/

namespace Job

/-- Two jobs that do the same, and end with related values. -/
inductive Matches (related : α → β → Prop) : Job World α → Job World β → Prop where
  | done {first : α} {second : β} (same : related first second) :
      Matches related (.done first) (.done second)
  | panic (payload : Panic) : Matches related (.panic payload) (.panic payload)
  | act (change : Nat → World → World) {next : Nat → World → Job World α}
      {other : Nat → World → Job World β}
      (further : ∀ now world, Matches related (next now world) (other now world)) :
      Matches related (.act change next) (.act change other)
  | sleep (wake : Nat) {next : Job World α} {other : Job World β}
      (further : Matches related next other) :
      Matches related (.sleep wake next) (.sleep wake other)

theorem Matches.refl {related : α → α → Prop} (reflexive : ∀ value, related value value)
    (job : Job World α) : job.Matches related job := by
  induction job with
  | done value => exact .done (reflexive value)
  | panic payload => exact .panic payload
  | act change next inductionHypothesis => exact .act change inductionHypothesis
  | sleep wake next inductionHypothesis => exact .sleep wake inductionHypothesis

theorem Matches.bind {related : α → β → Prop} {after : γ → δ → Prop} {job : Job World α}
    {other : Job World β} {next : α → Job World γ} {further : β → Job World δ}
    (first : job.Matches related other)
    (second : ∀ value twin, related value twin → (next value).Matches after (further twin)) :
    (job.bind next).Matches after (other.bind further) := by
  induction first with
  | done same => exact second _ _ same
  | panic payload => exact .panic payload
  | act change _ inductionHypothesis => exact .act change inductionHypothesis
  | sleep wake _ inductionHypothesis => exact .sleep wake inductionHypothesis

/-- How far two jobs that do the same get in one turn. -/
inductive Progress.Matches (related : α → β → Prop) :
    Progress World α → Progress World β → Prop where
  | finished {first : α} {second : β} (same : related first second) :
      Progress.Matches related (.finished first) (.finished second)
  | panicked (payload : Panic) : Progress.Matches related (.panicked payload) (.panicked payload)
  | asleep (wake : Nat) {next : Job World α} {other : Job World β}
      (further : next.Matches related other) :
      Progress.Matches related (.asleep wake next) (.asleep wake other)
  | interrupted {next : Job World α} {other : Job World β} (further : next.Matches related other) :
      Progress.Matches related (.interrupted next) (.interrupted other)

theorem Progress.Matches.outcome? {related : α → β → Prop} {progress : Progress World α}
    {other : Progress World β} (same : progress.Matches related other) :
    Option.Rel (SameEnd related) progress.outcome? other.outcome? := by
  cases same with
  | finished same => exact .some (.value same)
  | panicked payload => exact .some (.panic payload)
  | asleep => exact .none
  | interrupted => exact .none

/-- A turn takes jobs that do the same equally far, and leaves the same world. -/
theorem Matches.run {related : α → β → Prop} {job : Job World α} {other : Job World β}
    (same : job.Matches related other) (now allowance : Nat) (world : World) :
    (job.run now allowance world).1.Matches related (other.run now allowance world).1 ∧
      (other.run now allowance world).2 = (job.run now allowance world).2 := by
  induction same generalizing allowance world with
  | done same => exact ⟨.finished same, rfl⟩
  | panic payload => exact ⟨.panicked payload, rfl⟩
  | act change _ inductionHypothesis => exact inductionHypothesis now world allowance _
  | sleep wake further inductionHypothesis =>
      cases allowance with
      | zero => exact ⟨.interrupted (.sleep wake further), rfl⟩
      | succ allowance =>
          simp only [Job.run]
          by_cases elapsed : wake ≤ now
          · rw [if_pos elapsed, if_pos elapsed]
            exact inductionHypothesis allowance world
          · rw [if_neg elapsed, if_neg elapsed]
            exact ⟨.asleep wake further, rfl⟩

end Job

/-! ## Machines -/

structure Task.Matches (related : α → β → Prop) (task : Task World α) (other : Task World β) :
    Prop where
  id : other.id = task.id
  job : task.job.Matches related other.job
  rested : other.rested = task.rested

structure Sleeper.Matches (related : α → β → Prop) (sleeper : Sleeper World α)
    (other : Sleeper World β) : Prop where
  id : other.id = sleeper.id
  wake : other.wake = sleeper.wake
  job : sleeper.job.Matches related other.job

/-- Two machines that differ only in jobs that do the same, and in what has been reported. -/
structure Machine.Lockstep (related : α → β → Prop) (machine : Machine World α)
    (other : Machine World β) : Prop where
  clock : other.clock = machine.clock
  world : other.world = machine.world
  turns : other.turns = machine.turns
  ready : List.Forall₂ (Task.Matches related) machine.ready other.ready
  interrupted : List.Forall₂ (Task.Matches related) machine.interrupted other.interrupted
  sleepers : List.Forall₂ (Sleeper.Matches related) machine.sleepers other.sleepers
  allowance : other.allowance = machine.allowance
  nextId : other.nextId = machine.nextId

namespace Machine

variable {related : α → β → Prop} {machine : Machine World α} {other : Machine World β}

theorem Lockstep.refl {related : α → α → Prop} (reflexive : ∀ value, related value value)
    (machine : Machine World α) : machine.Lockstep related machine where
  clock := rfl
  world := rfl
  turns := rfl
  ready := List.forall₂_same.mpr fun task _ => ⟨rfl, .refl reflexive task.job, rfl⟩
  interrupted := List.forall₂_same.mpr fun task _ => ⟨rfl, .refl reflexive task.job, rfl⟩
  sleepers := List.forall₂_same.mpr fun sleeper _ => ⟨rfl, rfl, .refl reflexive sleeper.job⟩
  allowance := rfl
  nextId := rfl

theorem Lockstep.spend (step : machine.Lockstep related other) :
    machine.spend.Lockstep related other.spend :=
  { step with allowance := congrArg (· - 1) step.allowance }

theorem Lockstep.spawn (step : machine.Lockstep related other) {job : Job World α}
    {twin : Job World β} (same : job.Matches related twin) :
    (machine.spawn job).2.Lockstep related (other.spawn twin).2 :=
  { step with
    ready := List.rel_append step.ready (.cons ⟨step.nextId, same, rfl⟩ .nil)
    nextId := congrArg (· + 1) step.nextId }

/-! ### Turns -/

/-- The turns of two machines: of tasks that do the same, with machines in step left behind. -/
def SameTurn (related : α → β → Prop) (turn : Task World α × Machine World α)
    (other : Task World β × Machine World β) : Prop :=
  turn.1.Matches related other.1 ∧ turn.2.Lockstep related other.2

theorem Lockstep.next? (step : machine.Lockstep related other) :
    Option.Rel (SameTurn related) machine.next? other.next? := by
  have ready := step.ready
  unfold Machine.next?
  rw [step.turns]
  cases machine.turns with
  | zero => exact .none
  | succ turns =>
      generalize machine.ready = tasks at ready ⊢
      generalize other.ready = others at ready ⊢
      cases ready with
      | nil => exact .none
      | cons same rest => exact .some ⟨same, { step with turns := rfl, ready := rest }⟩

theorem Lockstep.newRound (step : machine.Lockstep related other) :
    machine.newRound.Lockstep related other.newRound :=
  { step with
    turns := rfl
    ready := List.rel_append step.ready step.interrupted
    interrupted := .nil }

theorem filter_matches {sleepers : List (Sleeper World α)} {others : List (Sleeper World β)}
    (same : List.Forall₂ (Sleeper.Matches related) sleepers others) (test : Nat → Bool) :
    List.Forall₂ (Sleeper.Matches related) (sleepers.filter fun sleeper => test sleeper.wake)
      (others.filter fun sleeper => test sleeper.wake) := by
  refine List.rel_filter ?_ same
  intro sleeper twin same
  simp only
  rw [same.wake]

theorem woken_match {sleepers : List (Sleeper World α)} {others : List (Sleeper World β)}
    (same : List.Forall₂ (Sleeper.Matches related) sleepers others) :
    List.Forall₂ (Task.Matches related)
      (sleepers.map fun sleeper => ⟨sleeper.id, sleeper.job, true⟩)
      (others.map fun sleeper => ⟨sleeper.id, sleeper.job, true⟩) := by
  induction same with
  | nil => exact .nil
  | cons same _ inductionHypothesis => exact .cons ⟨same.id, same.job, rfl⟩ inductionHypothesis

theorem wakes_eq {sleepers : List (Sleeper World α)} {others : List (Sleeper World β)}
    (same : List.Forall₂ (Sleeper.Matches related) sleepers others) :
    others.map (·.wake) = sleepers.map (·.wake) := by
  induction same with
  | nil => rfl
  | cons same _ inductionHypothesis =>
      rw [List.map_cons, List.map_cons, same.wake, inductionHypothesis]

theorem Lockstep.moveTo (step : machine.Lockstep related other) (moment : Nat) :
    (machine.moveTo moment).Lockstep related (other.moveTo moment) :=
  { step with
    clock := congrArg (max · moment) step.clock
    ready := List.rel_append step.ready
      (woken_match (filter_matches step.sleepers fun wake => decide (wake ≤ moment)))
    sleepers := filter_matches step.sleepers fun wake => !decide (wake ≤ moment) }

theorem Lockstep.moveBefore (step : machine.Lockstep related other) (limit : Nat) :
    (machine.moveBefore limit).Lockstep related (other.moveBefore limit) := by
  have first : other.firstWake? = machine.firstWake? := congrArg List.min? (wakes_eq step.sleepers)
  unfold Machine.moveBefore
  rw [first]
  cases machine.firstWake? with
  | none => exact step
  | some wake =>
      simp only
      by_cases early : wake < limit
      · rw [if_pos early, if_pos early]
        exact step.moveTo wake
      · rw [if_neg early, if_neg early]
        exact step

theorem Lockstep.nextTurn? (step : machine.Lockstep related other) (moment : Nat)
    (goesOn : Bool) :
    Option.Rel (SameTurn related) (machine.nextTurn? moment goesOn)
      (other.nextTurn? moment goesOn) := by
  have current := step.next?
  have following := step.newRound.next?
  have moved := (step.newRound.moveBefore moment).next?
  unfold Machine.nextTurn?
  revert current
  generalize machine.next? = turn
  generalize other.next? = twin
  intro current
  cases current with
  | some same => exact .some same
  | none =>
      cases goesOn with
      | true => exact .none
      | false =>
          revert following
          generalize machine.newRound.next? = turn
          generalize other.newRound.next? = twin
          intro following
          cases following with
          | some same => exact .some same
          | none => exact moved

theorem Lockstep.settle (step : machine.Lockstep related other) {task : Task World α}
    {twin : Task World β} (same : task.Matches related twin) {progress : Job.Progress World α}
    {further : Job.Progress World β} (far : progress.Matches related further) (world : World) :
    (machine.settle task progress world).Lockstep related (other.settle twin further world) := by
  cases far with
  | finished => exact { step with world := rfl }
  | panicked => exact { step with world := rfl }
  | asleep wake next =>
      exact { step with
        world := rfl
        sleepers := List.rel_append step.sleepers (.cons ⟨same.id, rfl, next⟩ .nil) }
  | interrupted next =>
      exact { step with
        world := rfl
        interrupted := .cons ⟨same.id, next, rfl⟩ step.interrupted }

theorem Lockstep.takeTurn (step : machine.Lockstep related other) {task : Task World α}
    {twin : Task World β} (same : task.Matches related twin) :
    (machine.takeTurn task).1.Matches related (other.takeTurn twin).1 ∧
      (machine.takeTurn task).2.Lockstep related (other.takeTurn twin).2 := by
  have spare : twin.spare = task.spare := by
    unfold Task.spare
    rw [same.rested]
  have ran := same.job.run machine.clock (task.spare + 1) machine.world
  unfold Machine.takeTurn
  rw [spare, step.clock, step.world]
  refine ⟨ran.1, ?_⟩
  simp only
  rw [ran.2]
  exact step.settle same ran.1 _

/-! ### Waits of the caller -/

theorem pass_none {awaited : Option Nat} {moment : Nat} {goesOn : Bool}
    {outcome : Option (Except Panic α)} (stuck : machine.nextTurn? moment goesOn = none) :
    machine.pass awaited moment goesOn outcome = (outcome, machine.back moment goesOn) := by
  rw [Machine.pass]
  split
  · rfl
  · rename_i turn
    cases stuck.symm.trans turn

theorem pass_some {awaited : Option Nat} {moment : Nat} {goesOn : Bool}
    {outcome : Option (Except Panic α)} {task : Task World α} {rest : Machine World α}
    (turn : machine.nextTurn? moment goesOn = some (task, rest)) :
    machine.pass awaited moment goesOn outcome =
      match (rest.takeTurn task).1.outcome? with
      | none => (rest.takeTurn task).2.pass awaited moment goesOn outcome
      | some ended =>
          if awaited = some task.id then
            (rest.takeTurn task).2.pass awaited moment true (some ended)
          else (rest.takeTurn task).2.pass awaited moment goesOn outcome := by
  rw [Machine.pass]
  split
  · rename_i stuck
    cases stuck.symm.trans turn
  · rename_i found
    cases found.symm.trans turn
    rfl

theorem Lockstep.back (step : machine.Lockstep related other) (moment : Nat) (goesOn : Bool) :
    (machine.back moment goesOn).Lockstep related (other.back moment goesOn) := by
  cases goesOn with
  | true => exact { step.newRound with allowance := rfl }
  | false => exact { step.newRound.moveTo moment with allowance := rfl }

/-- A turn of the first machine is one of the second. -/
theorem Lockstep.turn (step : machine.Lockstep related other) {moment : Nat} {goesOn : Bool}
    {task : Task World α} {rest after : Machine World α} {progress : Job.Progress World α}
    (turn : machine.nextTurn? moment goesOn = some (task, rest))
    (taken : rest.takeTurn task = (progress, after)) :
    ∃ twin left, other.nextTurn? moment goesOn = some (twin, left) ∧ twin.id = task.id ∧
      Option.Rel (SameEnd related) progress.outcome? (left.takeTurn twin).1.outcome? ∧
        after.Lockstep related (left.takeTurn twin).2 := by
  have turns := step.nextTurn? moment goesOn
  rw [turn] at turns
  generalize other.nextTurn? moment goesOn = found at turns ⊢
  cases turns with
  | some same =>
      have further := same.2.takeTurn same.1
      rw [taken] at further
      exact ⟨_, _, rfl, same.1.id, further.1.outcome?, further.2⟩

/-- What waits of two machines in step come to: related outcomes, if any, and machines in step. -/
def SameWait (related : α → β → Prop) (wait : Option (Except Panic α) × Machine World α)
    (other : Option (Except Panic β) × Machine World β) : Prop :=
  Option.Rel (SameEnd related) wait.1 other.1 ∧ wait.2.Lockstep related other.2

/-- **Machines in step stay so in a wait.** -/
theorem Lockstep.pass (step : machine.Lockstep related other) (awaited : Option Nat)
    (moment : Nat) (goesOn : Bool) {outcome : Option (Except Panic α)}
    {twin : Option (Except Panic β)} (known : Option.Rel (SameEnd related) outcome twin) :
    SameWait related (machine.pass awaited moment goesOn outcome)
      (other.pass awaited moment goesOn twin) := by
  -- Over the turns of the first machine; the second one takes the same.
  fun_induction Machine.pass awaited moment goesOn outcome machine generalizing other twin with
  | case1 goesOn outcome machine stuck =>
      have turns := step.nextTurn? moment goesOn
      rw [stuck] at turns
      generalize found : other.nextTurn? moment goesOn = turn at turns
      cases turns
      rw [pass_none found]
      exact ⟨known, step.back moment goesOn⟩
  | case2 goesOn outcome machine task rest turn progress after taken verdict inductionHypothesis =>
      obtain ⟨same, left, found, _, ends, further⟩ := step.turn turn taken
      rw [verdict] at ends
      rw [pass_some found]
      generalize (left.takeTurn same).1.outcome? = ended at ends
      cases ends
      exact inductionHypothesis further known
  | case3 goesOn outcome machine task rest turn progress after taken ended verdict own
      inductionHypothesis =>
      obtain ⟨same, left, found, id, ends, further⟩ := step.turn turn taken
      rw [verdict] at ends
      rw [pass_some found]
      generalize (left.takeTurn same).1.outcome? = twinEnded at ends
      cases ends with
      | some ends =>
          simp only
          rw [id, if_pos own]
          exact inductionHypothesis further (.some ends)
  | case4 goesOn outcome machine task rest turn progress after taken ended verdict others
      inductionHypothesis =>
      obtain ⟨same, left, found, id, ends, further⟩ := step.turn turn taken
      rw [verdict] at ends
      rw [pass_some found]
      generalize (left.takeTurn same).1.outcome? = twinEnded at ends
      cases ends with
      | some ends =>
          simp only
          rw [id, if_neg others]
          exact inductionHypothesis further known

theorem isSome_eq_of_rel {relation : γ → δ → Prop} {first : Option γ} {second : Option δ}
    (same : Option.Rel relation first second) : second.isSome = first.isSome := by
  cases same with
  | some => rfl
  | none => rfl

theorem Lockstep.giveWay (step : machine.Lockstep related other) (awaited : Option Nat) :
    SameWait related (machine.giveWay awaited) (other.giveWay awaited) := by
  unfold Machine.giveWay
  rw [step.allowance, step.clock]
  by_cases spent : machine.allowance = 0
  · rw [if_pos spent, if_pos spent]
    exact step.pass awaited machine.clock true .none
  · rw [if_neg spent, if_neg spent]
    exact ⟨.none, step⟩

theorem Lockstep.await (step : machine.Lockstep related other) (id deadline : Nat) :
    SameWait related (machine.await id deadline) (other.await id deadline) := by
  obtain ⟨ends, given⟩ := step.giveWay (some id)
  have known : (other.giveWay (some id)).1.isSome = (machine.giveWay (some id)).1.isSome :=
    isSome_eq_of_rel ends
  unfold Machine.await
  simp only
  rw [known, given.clock]
  by_cases elapsed : (machine.giveWay (some id)).1.isSome = true ∨
      deadline ≤ (machine.giveWay (some id)).2.clock
  · rw [if_pos elapsed, if_pos elapsed]
    exact ⟨ends, given.spend⟩
  · rw [if_neg elapsed, if_neg elapsed]
    obtain ⟨ends, passed⟩ := given.pass (some id) deadline false .none
    exact ⟨ends, passed.spend⟩

end Machine

end HttpService
