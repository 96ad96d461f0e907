import HttpService.Concurrency.Machine

/-!
Contract: properties of jobs that all turns keep.

Owns:
- where a turn may be found, and induction over the turns of a wait;
- disciplines: what is known of ready jobs, of jobs at rest and of outcomes, closed under
  every constructor of a job;
- a turn keeps to a discipline, and so does every wait of the caller, however many turns
  it takes.

Does not own: any particular property.
-/

namespace HttpService

variable {World α β : Type}

/-- What is known of the jobs of a machine at a moment, by their identities. -/
structure Discipline (World α : Type) where
  /-- Of a job that is ready. -/
  ready : (now id : Nat) → Job World α → Prop
  /-- Of a job that rests to a moment. -/
  resting : (now id wake : Nat) → Job World α → Prop
  /-- Of an outcome. -/
  ended : (now id : Nat) → Except Panic α → Prop
  done : ∀ {now id value}, ready now id (.done value) → ended now id (.ok value)
  panic : ∀ {now id payload}, ready now id (.panic payload) → ended now id (.error payload)
  act : ∀ {now id change next}, ready now id (.act change next) →
    ∀ world, ready now id (next now world)
  sleep : ∀ {now id wake next}, ready now id (.sleep wake next) → resting now id wake next
  rest : ∀ {now later id wake next}, resting now id wake next → now ≤ later →
    resting later id wake next
  wake : ∀ {now id wake next}, resting now id wake next → wake ≤ now → ready now id next

namespace Machine

variable {machine after : Machine World α} {task : Task World α}

/-! ## Whose turn it is -/

theorem of_next? (turn : machine.next? = some (task, after)) :
    ∃ turns others, machine.ready = task :: others ∧
      after = { machine with turns := turns, ready := others } := by
  unfold next? at turn
  split at turn
  · rename_i turns first others _ queue
    cases turn
    exact ⟨turns, others, queue, rfl⟩
  · cases turn

theorem next?_eq_none {turns : Nat} (left : machine.turns = turns + 1)
    (idle : machine.next? = none) : machine.ready = [] := by
  unfold next? at idle
  split at idle
  · cases idle
  · rename_i stuck
    cases queue : machine.ready with
    | nil => rfl
    | cons task others => exact absurd queue (stuck turns task others left)

/-- The rounds in which a turn may be found while the caller waits for a moment. -/
inductive Round (moment : Nat) (machine : Machine World α) : Bool → Machine World α → Prop where
  | current (goesOn : Bool) : Round moment machine goesOn machine
  | following : Round moment machine false machine.newRound
  | moved (idle : machine.newRound.ready = []) :
      Round moment machine false (machine.newRound.moveBefore moment)

theorem round_of_nextTurn? {moment : Nat} {goesOn : Bool}
    (turn : machine.nextTurn? moment goesOn = some (task, after)) :
    ∃ round, Round moment machine goesOn round ∧ round.next? = some (task, after) := by
  unfold nextTurn? at turn
  split at turn
  · rename_i found
    exact ⟨machine, .current goesOn, found.trans turn⟩
  · split at turn
    · cases turn
    · rename_i waits
      rw [Bool.not_eq_true] at waits
      subst waits
      split at turn
      · rename_i found
        exact ⟨machine.newRound, .following, found.trans turn⟩
      · rename_i idle
        exact ⟨_, .moved (next?_eq_none rfl idle), turn⟩

theorem idle_of_nextTurn? {moment : Nat} (stuck : machine.nextTurn? moment false = none) :
    machine.newRound.ready = [] ∧ (machine.newRound.moveBefore moment).next? = none := by
  unfold nextTurn? at stuck
  split at stuck
  · cases stuck
  · rw [if_neg (by decide)] at stuck
    split at stuck
    · cases stuck
    · rename_i idle
      exact ⟨next?_eq_none rfl idle, stuck⟩

/-- The machine that the caller comes back to. -/
def back (machine : Machine World α) (moment : Nat) (goesOn : Bool) : Machine World α :=
  { (if goesOn then machine.newRound else machine.newRound.moveTo moment) with
    allowance := turnAllowance }

/-- **What every turn keeps, and the way back to the caller, is kept by a wait.** -/
theorem pass_induction {motive : Machine World α → Prop} {awaited : Option Nat} {moment : Nat}
    (turn : ∀ {goesOn : Bool} {machine rest after : Machine World α} {task : Task World α}
      {progress : Job.Progress World α}, machine.nextTurn? moment goesOn = some (task, rest) →
        rest.takeTurn task = (progress, after) → motive machine → motive after)
    (back : ∀ {goesOn : Bool} {machine : Machine World α},
      machine.nextTurn? moment goesOn = none → motive machine →
        motive (machine.back moment goesOn))
    (goesOn : Bool) (outcome : Option (Except Panic α)) {machine : Machine World α}
    (start : motive machine) : motive (machine.pass awaited moment goesOn outcome).2 := by
  -- Over the turns of the wait. Whose turn it was decides only what the caller learns.
  fun_induction Machine.pass awaited moment goesOn outcome machine with
  | case1 goesOn outcome machine stuck => exact back stuck start
  | case2 goesOn outcome machine task rest found progress after taken _ inductionHypothesis =>
      exact inductionHypothesis (turn found taken start)
  | case3 goesOn outcome machine task rest found progress after taken _ _ _ inductionHypothesis =>
      exact inductionHypothesis (turn found taken start)
  | case4 goesOn outcome machine task rest found progress after taken _ _ _ inductionHypothesis =>
      exact inductionHypothesis (turn found taken start)

end Machine

namespace Discipline

variable {discipline : Discipline World α}

/-- What is known of a job after its turn. -/
def Meets (discipline : Discipline World α) (now id : Nat) : Job.Progress World α → Prop
  | .finished value => discipline.ended now id (.ok value)
  | .panicked payload => discipline.ended now id (.error payload)
  | .asleep wake next => discipline.resting now id wake next
  | .interrupted next => discipline.ready now id next

theorem meets_run {now id : Nat} {job : Job World α} (ready : discipline.ready now id job)
    (allowance : Nat) (world : World) :
    discipline.Meets now id (job.run now allowance world).1 := by
  -- By the constructors of the job: each of them hands the rest another world, and a rest that is
  -- over also takes from the allowance.
  induction job generalizing allowance world with
  | done value => exact discipline.done ready
  | panic payload => exact discipline.panic ready
  | act change next inductionHypothesis =>
      exact inductionHypothesis now world (discipline.act ready world) allowance _
  | sleep wake next inductionHypothesis =>
      cases allowance with
      | zero => exact ready
      | succ allowance =>
          have resting := discipline.sleep ready
          simp only [Job.run]
          by_cases elapsed : wake ≤ now
          · rw [if_pos elapsed]
            exact inductionHypothesis (discipline.wake resting elapsed) allowance world
          · rw [if_neg elapsed]
            exact resting

theorem Meets.ended {now id : Nat} {progress : Job.Progress World α}
    (meets : discipline.Meets now id progress) {outcome : Except Panic α}
    (ended : progress.outcome? = some outcome) : discipline.ended now id outcome := by
  cases progress with
  | finished value =>
      cases ended
      exact meets
  | panicked payload =>
      cases ended
      exact meets
  | asleep wake next => cases ended
  | interrupted next => cases ended

/-- A machine whose jobs keep to a discipline. -/
structure Holds (discipline : Discipline World α) (machine : Machine World α) : Prop where
  ready : ∀ task ∈ machine.ready, discipline.ready machine.clock task.id task.job
  interrupted : ∀ task ∈ machine.interrupted, discipline.ready machine.clock task.id task.job
  sleepers : ∀ sleeper ∈ machine.sleepers,
    discipline.resting machine.clock sleeper.id sleeper.wake sleeper.job

/-! ## Steps -/

section

open Machine

variable {machine after : Machine World α} {task : Task World α}

theorem holds_start (world : World) : discipline.Holds (Machine.start world) :=
  ⟨by simp [Machine.start], by simp [Machine.start], by simp [Machine.start]⟩

theorem Holds.report (holds : discipline.Holds machine) (level : LogLevel) (text : String) :
    discipline.Holds (machine.report level text) :=
  ⟨holds.ready, holds.interrupted, holds.sleepers⟩

theorem Holds.reportAll (holds : discipline.Holds machine) (records : List LogRecord) :
    discipline.Holds (machine.reportAll records) :=
  ⟨holds.ready, holds.interrupted, holds.sleepers⟩

theorem Holds.spend (holds : discipline.Holds machine) : discipline.Holds machine.spend :=
  ⟨holds.ready, holds.interrupted, holds.sleepers⟩

theorem Holds.spawn (holds : discipline.Holds machine) {job : Job World α}
    (ready : discipline.ready machine.clock machine.nextId job) :
    discipline.Holds (machine.spawn job).2 := by
  refine ⟨?_, holds.interrupted, holds.sleepers⟩
  intro task member
  rcases List.mem_append.mp member with earlier | new
  · exact holds.ready task earlier
  · rw [List.mem_singleton.mp new]
    exact ready

theorem Holds.next? (holds : discipline.Holds machine)
    (turn : machine.next? = some (task, after)) :
    discipline.ready after.clock task.id task.job ∧ discipline.Holds after := by
  obtain ⟨turns, others, queue, rfl⟩ := of_next? turn
  have ready := holds.ready
  rw [queue] at ready
  refine ⟨ready task (List.mem_cons_self ..), ?_, holds.interrupted, holds.sleepers⟩
  intro other member
  exact ready other (List.mem_cons_of_mem _ member)

theorem Holds.newRound (holds : discipline.Holds machine) :
    discipline.Holds machine.newRound := by
  refine ⟨?_, by simp [Machine.newRound], holds.sleepers⟩
  intro task member
  rcases List.mem_append.mp member with first | second
  · exact holds.ready task first
  · exact holds.interrupted task second

theorem Holds.moveTo (holds : discipline.Holds machine) (idle : machine.ready = [])
    (noneInterrupted : machine.interrupted = []) (moment : Nat) :
    discipline.Holds (machine.moveTo moment) := by
  -- Nothing is known of a ready job at a later moment, so nobody may be ready.
  have later : machine.clock ≤ (machine.moveTo moment).clock := Nat.le_max_left _ _
  refine ⟨?_, ?_, ?_⟩
  · intro task member
    simp only [Machine.moveTo, idle, List.nil_append, List.mem_map, List.mem_filter,
      decide_eq_true_eq] at member
    obtain ⟨sleeper, ⟨asleep, due⟩, rfl⟩ := member
    have resting := discipline.rest (holds.sleepers sleeper asleep) later
    exact discipline.wake resting (Nat.le_trans due (Nat.le_max_right _ _))
  · intro task member
    simp [Machine.moveTo, noneInterrupted] at member
  · intro sleeper member
    exact discipline.rest (holds.sleepers sleeper (List.mem_filter.mp member).1) later

theorem Holds.moveBefore (holds : discipline.Holds machine) (idle : machine.ready = [])
    (noneInterrupted : machine.interrupted = []) (limit : Nat) :
    discipline.Holds (machine.moveBefore limit) := by
  unfold Machine.moveBefore
  split
  · split
    · exact holds.moveTo idle noneInterrupted _
    · exact holds
  · exact holds

theorem Holds.nextTurn? (holds : discipline.Holds machine) {moment : Nat} {goesOn : Bool}
    (turn : machine.nextTurn? moment goesOn = some (task, after)) :
    discipline.ready after.clock task.id task.job ∧ discipline.Holds after := by
  obtain ⟨round, reached, found⟩ := round_of_nextTurn? turn
  cases reached with
  | current => exact holds.next? found
  | following => exact holds.newRound.next? found
  | moved idle => exact (holds.newRound.moveBefore idle rfl moment).next? found

theorem Holds.takeTurn (holds : discipline.Holds machine)
    (ready : discipline.ready machine.clock task.id task.job) :
    discipline.Meets machine.clock task.id (machine.takeTurn task).1 ∧
      discipline.Holds (machine.takeTurn task).2 := by
  have meets := discipline.meets_run ready (task.spare + 1) machine.world
  refine ⟨meets, ?_⟩
  unfold Machine.takeTurn
  revert meets
  generalize task.job.run machine.clock (task.spare + 1) machine.world = result
  obtain ⟨progress, world⟩ := result
  intro meets
  unfold Machine.settle
  cases progress with
  | finished value => exact ⟨holds.ready, holds.interrupted, holds.sleepers⟩
  | panicked payload => exact ⟨holds.ready, holds.interrupted, holds.sleepers⟩
  | asleep wake next =>
      refine ⟨holds.ready, holds.interrupted, ?_⟩
      intro sleeper member
      rcases List.mem_append.mp member with earlier | new
      · exact holds.sleepers sleeper earlier
      · rw [List.mem_singleton.mp new]
        exact meets
  | interrupted next =>
      refine ⟨holds.ready, ?_, holds.sleepers⟩
      intro other member
      rcases List.mem_cons.mp member with rfl | earlier
      · exact meets
      · exact holds.interrupted other earlier

end

/-! ## Waits of the caller -/

section

open Machine

variable {machine : Machine World α}

theorem Holds.back (holds : discipline.Holds machine) {moment : Nat} {goesOn : Bool}
    (stuck : machine.nextTurn? moment goesOn = none) :
    discipline.Holds (machine.back moment goesOn) := by
  cases goesOn with
  | true =>
      have kept := holds.newRound
      exact ⟨kept.ready, kept.interrupted, kept.sleepers⟩
  | false =>
      have kept := holds.newRound.moveTo (idle_of_nextTurn? stuck).1 rfl moment
      exact ⟨kept.ready, kept.interrupted, kept.sleepers⟩

theorem Holds.turn (holds : discipline.Holds machine) {moment : Nat} {goesOn : Bool}
    {task : Task World α} {rest after : Machine World α} {progress : Job.Progress World α}
    (turn : machine.nextTurn? moment goesOn = some (task, rest))
    (taken : rest.takeTurn task = (progress, after)) :
    discipline.Meets rest.clock task.id progress ∧ discipline.Holds after := by
  obtain ⟨ready, kept⟩ := holds.nextTurn? turn
  have settled := kept.takeTurn ready
  rw [taken] at settled
  exact settled

theorem Holds.pass (holds : discipline.Holds machine) (awaited : Option Nat) (moment : Nat)
    (goesOn : Bool) (outcome : Option (Except Panic α)) :
    discipline.Holds (machine.pass awaited moment goesOn outcome).2 := by
  refine pass_induction (motive := discipline.Holds) ?_ ?_ goesOn outcome holds
  · intro goesOn machine rest after task progress turn taken holds
    exact (holds.turn turn taken).2
  · intro goesOn machine stuck holds
    exact holds.back stuck

theorem Holds.giveWay (holds : discipline.Holds machine) (awaited : Option Nat) :
    discipline.Holds (machine.giveWay awaited).2 := by
  unfold Machine.giveWay
  split
  · exact holds.pass awaited machine.clock true none
  · exact holds

end

end Discipline

end HttpService
