import HttpService.Proofs.Concurrency.Discipline

/-!
Contract: what the caller may rely on when it has waited for a job, or for a moment.

Owns:
- how far the clock moves in a wait, and that no identity is given away;
- the outcome of the job is one that the discipline allows, at a moment of the wait;
- without an outcome the wait lasts until the deadline, and the job rests to it or beyond;
- a moment is waited for until it comes, unless the deadline comes before it.

Does not own: what the discipline says about the job.
-/

namespace HttpService

/-- A moment of a wait that begins at `start` and goes on before `limit`. -/
def During (start limit now : Nat) : Prop :=
  start ≤ now ∧ (now ≤ start ∨ now < limit)

theorem During.refl (start limit : Nat) : During start limit start :=
  ⟨Nat.le_refl start, .inl (Nat.le_refl start)⟩

theorem During.trans {start limit middle now : Nat} (first : During start limit middle)
    (second : During middle limit now) : During start limit now := by
  unfold During at *
  omega

namespace Machine

variable {World α : Type} {machine after : Machine World α} {task : Task World α}

/-! ## The clock -/

theorem clock_next? (turn : machine.next? = some (task, after)) : after.clock = machine.clock := by
  obtain ⟨turns, others, _, rfl⟩ := of_next? turn
  rfl

theorem during_moveBefore (limit : Nat) (machine : Machine World α) :
    During machine.clock limit (machine.moveBefore limit).clock := by
  unfold moveBefore
  split
  · split
    · unfold During moveTo
      simp only
      omega
    · exact .refl _ _
  · exact .refl _ _

theorem during_nextTurn? {moment : Nat} {goesOn : Bool}
    (turn : machine.nextTurn? moment goesOn = some (task, after)) :
    During machine.clock moment after.clock := by
  obtain ⟨round, reached, found⟩ := round_of_nextTurn? turn
  rw [clock_next? found]
  cases reached with
  | current => exact .refl _ _
  | following => exact .refl _ _
  | moved => exact during_moveBefore moment machine.newRound

theorem clock_takeTurn (machine : Machine World α) (task : Task World α) :
    (machine.takeTurn task).2.clock = machine.clock := by
  unfold takeTurn settle
  simp only
  split <;> rfl

theorem during_turn {moment : Nat} {goesOn : Bool} {rest : Machine World α}
    {progress : Job.Progress World α} (turn : machine.nextTurn? moment goesOn = some (task, rest))
    (taken : rest.takeTurn task = (progress, after)) : During machine.clock moment after.clock := by
  have kept := clock_takeTurn rest task
  rw [taken] at kept
  rw [kept]
  exact during_nextTurn? turn

theorem waits_of_unknown {goesOn : Bool} {outcome : Option (Except Panic α)}
    (reason : goesOn = true → outcome.isSome = true) (unknown : outcome = none) :
    goesOn = false := by
  cases goesOn with
  | false => rfl
  | true =>
      have known := reason rfl
      rw [unknown] at known
      cases known

theorem clock_pass {awaited : Option Nat} {moment : Nat} {goesOn : Bool}
    {outcome : Option (Except Panic α)} (reason : goesOn = true → outcome.isSome = true)
    (late : (machine.pass awaited moment goesOn outcome).1 = none) :
    (machine.pass awaited moment goesOn outcome).2.clock = max machine.clock moment := by
  fun_induction Machine.pass awaited moment goesOn outcome machine with
  | case1 goesOn outcome machine stuck =>
      rw [waits_of_unknown reason late]
      rfl
  | case2 goesOn outcome machine task rest turn progress after taken _ inductionHypothesis =>
      have during := during_turn turn taken
      rw [inductionHypothesis reason late]
      unfold During at during
      omega
  | case3 goesOn outcome machine task rest turn progress after taken _ _ _ inductionHypothesis =>
      have during := during_turn turn taken
      -- The job has ended, and that is a reason to go on which is known.
      rw [inductionHypothesis (fun _ => rfl) late]
      unfold During at during
      omega
  | case4 goesOn outcome machine task rest turn progress after taken _ _ _ inductionHypothesis =>
      have during := during_turn turn taken
      rw [inductionHypothesis reason late]
      unfold During at during
      omega

/-! ## Identities -/

theorem nextId_next? (turn : machine.next? = some (task, after)) :
    after.nextId = machine.nextId := by
  obtain ⟨turns, others, _, rfl⟩ := of_next? turn
  rfl

theorem nextId_moveBefore (limit : Nat) (machine : Machine World α) :
    (machine.moveBefore limit).nextId = machine.nextId := by
  unfold moveBefore
  split
  · split <;> rfl
  · rfl

theorem nextId_turn {moment : Nat} {goesOn : Bool} {rest : Machine World α}
    {progress : Job.Progress World α} (turn : machine.nextTurn? moment goesOn = some (task, rest))
    (taken : rest.takeTurn task = (progress, after)) : after.nextId = machine.nextId := by
  have kept : (rest.takeTurn task).2.nextId = rest.nextId := by
    unfold takeTurn settle
    simp only
    split <;> rfl
  obtain ⟨round, reached, found⟩ := round_of_nextTurn? turn
  rw [taken] at kept
  rw [kept, nextId_next? found]
  cases reached with
  | current => rfl
  | following => rfl
  | moved => exact nextId_moveBefore moment machine.newRound

theorem nextId_pass (awaited : Option Nat) (moment : Nat) (goesOn : Bool)
    (outcome : Option (Except Panic α)) (machine : Machine World α) :
    (machine.pass awaited moment goesOn outcome).2.nextId = machine.nextId := by
  refine pass_induction (motive := fun later => later.nextId = machine.nextId) ?_ ?_ goesOn
    outcome rfl
  · intro goesOn before rest after task progress turn taken same
    exact (nextId_turn turn taken).trans same
  · intro goesOn before stuck same
    cases goesOn <;> exact same

/-! ## Outcomes -/

theorem isSome_pass (awaited : Option Nat) (moment : Nat) (goesOn : Bool)
    {outcome : Option (Except Panic α)} (known : outcome.isSome = true)
    (machine : Machine World α) :
    (machine.pass awaited moment goesOn outcome).1.isSome = true := by
  fun_induction Machine.pass awaited moment goesOn outcome machine with
  | case1 goesOn outcome machine stuck => exact known
  | case2 goesOn outcome machine task rest turn progress after taken verdict inductionHypothesis =>
      exact inductionHypothesis known
  | case3 goesOn outcome machine task rest turn progress after taken ended verdict same
      inductionHypothesis =>
      exact inductionHypothesis rfl
  | case4 goesOn outcome machine task rest turn progress after taken ended verdict other
      inductionHypothesis =>
      exact inductionHypothesis known

variable {discipline : Discipline World α}

theorem ended_of_pass (holds : discipline.Holds machine) {id moment : Nat} {goesOn : Bool}
    {outcome : Option (Except Panic α)} {ended : Except Panic α}
    (result : (machine.pass (some id) moment goesOn outcome).1 = some ended) :
    outcome = some ended ∨
      ∃ now, During machine.clock moment now ∧ discipline.ended now id ended := by
  generalize aim : some id = awaited at result
  fun_induction Machine.pass awaited moment goesOn outcome machine with
  | case1 goesOn outcome machine stuck => exact .inl result
  | case2 goesOn outcome machine task rest turn progress after taken _ inductionHypothesis =>
      rcases inductionHypothesis (holds.turn turn taken).2 result with known | ⟨now, during, ended⟩
      · exact .inl known
      · exact .inr ⟨now, (during_turn turn taken).trans during, ended⟩
  | case3 goesOn outcome machine task rest turn progress after taken ended verdict same
      inductionHypothesis =>
      obtain ⟨meets, kept⟩ := holds.turn turn taken
      rcases inductionHypothesis kept result with known | ⟨now, during, ended⟩
      · cases known
        rw [← aim] at same
        cases same
        exact .inr ⟨rest.clock, during_nextTurn? turn, meets.ended verdict⟩
      · exact .inr ⟨now, (during_turn turn taken).trans during, ended⟩
  | case4 goesOn outcome machine task rest turn progress after taken ended verdict other
      inductionHypothesis =>
      rcases inductionHypothesis (holds.turn turn taken).2 result with known | ⟨now, during, ended⟩
      · exact .inl known
      · exact .inr ⟨now, (during_turn turn taken).trans during, ended⟩

/-! ## Jobs that have not ended -/

/-- A job of an identity is still to be done. -/
inductive Present (id : Nat) (machine : Machine World α) : Prop where
  | ready (task : Task World α) (member : task ∈ machine.ready) (same : task.id = id)
  | interrupted (task : Task World α) (member : task ∈ machine.interrupted) (same : task.id = id)
  | resting (sleeper : Sleeper World α) (member : sleeper ∈ machine.sleepers)
      (same : sleeper.id = id)

theorem present_spawn (machine : Machine World α) (job : Job World α) :
    Present (machine.spawn job).1 (machine.spawn job).2 :=
  .ready ⟨machine.nextId, job, false⟩ (by simp [spawn]) rfl

theorem Present.next? {id : Nat} (present : Present id machine)
    (turn : machine.next? = some (task, after)) : task.id = id ∨ Present id after := by
  obtain ⟨turns, others, queue, rfl⟩ := of_next? turn
  cases present with
  | ready other member same =>
      rw [queue] at member
      rcases List.mem_cons.mp member with rfl | later
      · exact .inl same
      · exact .inr (.ready other later same)
  | interrupted other member same => exact .inr (.interrupted other member same)
  | resting sleeper member same => exact .inr (.resting sleeper member same)

theorem Present.newRound {id : Nat} (present : Present id machine) :
    Present id machine.newRound := by
  cases present with
  | ready task member same => exact .ready task (List.mem_append_left _ member) same
  | interrupted task member same => exact .ready task (List.mem_append_right _ member) same
  | resting sleeper member same => exact .resting sleeper member same

theorem Present.moveTo {id : Nat} (present : Present id machine) (moment : Nat) :
    Present id (machine.moveTo moment) := by
  cases present with
  | ready task member same => exact .ready task (List.mem_append_left _ member) same
  | interrupted task member same => exact .interrupted task member same
  | resting sleeper member same =>
      by_cases due : sleeper.wake ≤ moment
      · refine .ready ⟨sleeper.id, sleeper.job, true⟩ (List.mem_append_right _ ?_) same
        exact List.mem_map.mpr ⟨sleeper, List.mem_filter.mpr ⟨member, by simpa using due⟩, rfl⟩
      · exact .resting sleeper (List.mem_filter.mpr ⟨member, by simpa using due⟩) same

theorem Present.moveBefore {id : Nat} (present : Present id machine) (limit : Nat) :
    Present id (machine.moveBefore limit) := by
  unfold Machine.moveBefore
  split
  · split
    · exact present.moveTo _
    · exact present
  · exact present

theorem Present.nextTurn? {id : Nat} (present : Present id machine) {moment : Nat} {goesOn : Bool}
    (turn : machine.nextTurn? moment goesOn = some (task, after)) :
    task.id = id ∨ Present id after := by
  obtain ⟨round, reached, found⟩ := round_of_nextTurn? turn
  cases reached with
  | current => exact present.next? found
  | following => exact present.newRound.next? found
  | moved => exact (present.newRound.moveBefore moment).next? found

theorem Present.back {id : Nat} (present : Present id machine) (moment : Nat) (goesOn : Bool) :
    Present id (machine.back moment goesOn) := by
  have kept : Present id (if goesOn then machine.newRound else machine.newRound.moveTo moment) := by
    split
    · exact present.newRound
    · exact present.newRound.moveTo moment
  cases kept with
  | ready task member same => exact .ready task member same
  | interrupted task member same => exact .interrupted task member same
  | resting sleeper member same => exact .resting sleeper member same

theorem Present.settle {id : Nat} (present : Present id machine) (task : Task World α)
    (progress : Job.Progress World α) (world : World) :
    Present id (machine.settle task progress world) := by
  cases present with
  | ready other member same =>
      refine .ready other ?_ same
      cases progress <;> exact member
  | interrupted other member same =>
      refine .interrupted other ?_ same
      cases progress with
      | interrupted next => exact List.mem_cons_of_mem _ member
      | _ => exact member
  | resting sleeper member same =>
      refine .resting sleeper ?_ same
      cases progress with
      | asleep wake next => exact List.mem_append_left _ member
      | _ => exact member

theorem present_settle {progress : Job.Progress World α} (goesOn : progress.outcome? = none)
    (machine : Machine World α) (task : Task World α) (world : World) :
    Present task.id (machine.settle task progress world) := by
  cases progress with
  | finished value => cases goesOn
  | panicked payload => cases goesOn
  | asleep wake next => exact .resting ⟨task.id, wake, next⟩ (by simp [Machine.settle]) rfl
  | interrupted next => exact .interrupted ⟨task.id, next, false⟩ (by simp [Machine.settle]) rfl

theorem Present.turn {id : Nat} (present : Present id machine) {moment : Nat} {goesOn : Bool}
    {rest : Machine World α} {progress : Job.Progress World α}
    (turn : machine.nextTurn? moment goesOn = some (task, rest))
    (taken : rest.takeTurn task = (progress, after))
    (remains : task.id = id → progress.outcome? = none) : Present id after := by
  unfold Machine.takeTurn at taken
  cases taken
  by_cases own : task.id = id
  · subst own
    exact present_settle (remains rfl) rest task _
  · exact ((present.nextTurn? turn).resolve_left own).settle task _ _

theorem le_wake_of_nextTurn? {moment : Nat} (stuck : machine.nextTurn? moment false = none)
    {sleeper : Sleeper World α} (member : sleeper ∈ machine.sleepers) : moment ≤ sleeper.wake := by
  -- Otherwise the clock would have moved to the first wake, and somebody would be ready.
  apply Nat.le_of_not_lt
  intro early
  have still := (idle_of_nextTurn? stuck).2
  cases first : machine.newRound.firstWake? with
  | none =>
      have nobody := List.min?_eq_none_iff.mp first
      have sleepers : machine.sleepers = [] := List.map_eq_nil_iff.mp nobody
      rw [sleepers] at member
      cases member
  | some wake =>
      obtain ⟨inside, least⟩ := List.min?_eq_some_iff.mp first
      have earliest : wake ≤ sleeper.wake := least _ (List.mem_map.mpr ⟨sleeper, member, rfl⟩)
      have moved : machine.newRound.moveBefore moment = machine.newRound.moveTo wake := by
        unfold moveBefore
        rw [first]
        exact if_pos (Nat.lt_of_le_of_lt earliest early)
      obtain ⟨woken, asleep, same⟩ := List.mem_map.mp inside
      have due : (⟨woken.id, woken.job, true⟩ : Task World α) ∈
          (machine.newRound.moveTo wake).ready := by
        apply List.mem_append_right
        refine List.mem_map.mpr ⟨woken, List.mem_filter.mpr ⟨asleep, ?_⟩, rfl⟩
        rw [decide_eq_true_eq]
        exact Nat.le_of_eq same
      rw [moved] at still
      rw [next?_eq_none rfl still] at due
      cases due

/-- If a wait ends without the outcome of a job, the job rests to its end or beyond. -/
theorem resting_of_pass (holds : discipline.Holds machine) {id moment : Nat} {goesOn : Bool}
    {outcome : Option (Except Panic α)} (present : Present id machine)
    (reason : goesOn = true → outcome.isSome = true)
    (late : (machine.pass (some id) moment goesOn outcome).1 = none) :
    ∃ now wake next, During machine.clock moment now ∧ moment ≤ wake ∧
      discipline.resting now id wake next := by
  generalize aim : some id = awaited at late
  fun_induction Machine.pass awaited moment goesOn outcome machine with
  | case1 goesOn outcome machine stuck =>
      rw [waits_of_unknown reason late] at stuck
      -- The job is still to be done, and it is not ready: it rests.
      have nobody : machine.ready ++ machine.interrupted = [] := (idle_of_nextTurn? stuck).1
      rw [List.append_eq_nil_iff] at nobody
      cases present with
      | ready task member same =>
          rw [nobody.1] at member
          cases member
      | interrupted task member same =>
          rw [nobody.2] at member
          cases member
      | resting sleeper member same =>
          refine ⟨machine.clock, sleeper.wake, sleeper.job, .refl _ _,
            le_wake_of_nextTurn? stuck member, ?_⟩
          rw [← same]
          exact holds.sleepers sleeper member
  | case2 goesOn outcome machine task rest turn progress after taken verdict inductionHypothesis =>
      obtain ⟨now, wake, next, during, beyond, resting⟩ := inductionHypothesis
        (holds.turn turn taken).2 (present.turn turn taken fun _ => verdict) reason late
      exact ⟨now, wake, next, (during_turn turn taken).trans during, beyond, resting⟩
  | case3 goesOn outcome machine task rest turn progress after taken ended verdict same
      inductionHypothesis =>
      have known := isSome_pass (some id) moment true (rfl : (some ended).isSome = true) after
      rw [aim, late] at known
      cases known
  | case4 goesOn outcome machine task rest turn progress after taken ended verdict other
      inductionHypothesis =>
      have remains : task.id = id → progress.outcome? = none := by
        rintro rfl
        exact absurd aim.symm other
      obtain ⟨now, wake, next, during, beyond, resting⟩ := inductionHypothesis
        (holds.turn turn taken).2 (present.turn turn taken remains) reason late
      exact ⟨now, wake, next, (during_turn turn taken).trans during, beyond, resting⟩

theorem Present.pass {id moment : Nat} (present : Present id machine) {goesOn : Bool}
    {outcome : Option (Except Panic α)}
    (unknown : (machine.pass (some id) moment goesOn outcome).1 = none) :
    Present id (machine.pass (some id) moment goesOn outcome).2 := by
  generalize aim : some id = awaited at unknown ⊢
  fun_induction Machine.pass awaited moment goesOn outcome machine with
  | case1 goesOn outcome machine stuck => exact present.back moment goesOn
  | case2 goesOn outcome machine task rest turn progress after taken verdict inductionHypothesis =>
      exact inductionHypothesis (present.turn turn taken fun _ => verdict) unknown
  | case3 goesOn outcome machine task rest turn progress after taken ended verdict same
      inductionHypothesis =>
      have known := isSome_pass awaited moment true (rfl : (some ended).isSome = true) after
      rw [unknown] at known
      cases known
  | case4 goesOn outcome machine task rest turn progress after taken ended verdict other
      inductionHypothesis =>
      have remains : task.id = id → progress.outcome? = none := by
        rintro rfl
        exact absurd aim.symm other
      exact inductionHypothesis (present.turn turn taken remains) unknown

/-! ## Waiting for a job -/

theorem clock_turn_goesOn {moment : Nat} {rest : Machine World α}
    {progress : Job.Progress World α} (turn : machine.nextTurn? moment true = some (task, rest))
    (taken : rest.takeTurn task = (progress, after)) : after.clock = machine.clock := by
  have kept := clock_takeTurn rest task
  obtain ⟨round, reached, found⟩ := round_of_nextTurn? turn
  rw [taken] at kept
  rw [kept, clock_next? found]
  cases reached with
  | current => rfl

theorem clock_pass_goesOn (awaited : Option Nat) (moment : Nat)
    (outcome : Option (Except Panic α)) (machine : Machine World α) :
    (machine.pass awaited moment true outcome).2.clock = machine.clock := by
  generalize reason : true = goesOn
  fun_induction Machine.pass awaited moment goesOn outcome machine with
  | case1 goesOn outcome machine stuck =>
      subst reason
      rfl
  | case2 goesOn outcome machine task rest turn progress after taken verdict inductionHypothesis =>
      subst reason
      rw [inductionHypothesis rfl, clock_turn_goesOn turn taken]
  | case3 goesOn outcome machine task rest turn progress after taken ended verdict same
      inductionHypothesis =>
      subst reason
      rw [inductionHypothesis rfl, clock_turn_goesOn turn taken]
  | case4 goesOn outcome machine task rest turn progress after taken ended verdict other
      inductionHypothesis =>
      subst reason
      rw [inductionHypothesis rfl, clock_turn_goesOn turn taken]

theorem clock_giveWay (awaited : Option Nat) (machine : Machine World α) :
    (machine.giveWay awaited).2.clock = machine.clock := by
  unfold giveWay
  split
  · exact clock_pass_goesOn awaited machine.clock none machine
  · rfl

/-- A caller that may still wait in its turn waits until the deadline at once. -/
theorem await_eq_pass {id deadline : Nat} (left : machine.allowance ≠ 0)
    (time : machine.clock < deadline) :
    machine.await id deadline =
      ((machine.pass (some id) deadline false none).1,
        (machine.pass (some id) deadline false none).2.spend) := by
  have notLate : ¬ ((none : Option (Except Panic α)).isSome = true ∨ deadline ≤ machine.clock) := by
    simp
    omega
  unfold await giveWay
  rw [if_neg left]
  simp only
  rw [if_neg notLate]

theorem ended_of_await (holds : discipline.Holds machine) {id deadline : Nat}
    {ended : Except Panic α} (result : (machine.await id deadline).1 = some ended) :
    ∃ now, During machine.clock deadline now ∧ discipline.ended now id ended := by
  have kept := holds.giveWay (some id)
  have clock := clock_giveWay (some id) machine
  unfold await at result
  simp only at result
  split at result
  · unfold giveWay at result
    split at result
    · rcases ended_of_pass holds result with known | ⟨now, during, ended⟩
      · cases known
      · have same : now = machine.clock := by
          unfold During at during
          omega
        exact ⟨machine.clock, .refl _ _, same ▸ ended⟩
    · cases result
  · rcases ended_of_pass kept result with known | ⟨now, during, ended⟩
    · cases known
    · rw [clock] at during
      exact ⟨now, during, ended⟩

theorem clock_await {id deadline : Nat} (late : (machine.await id deadline).1 = none) :
    (machine.await id deadline).2.clock = max machine.clock deadline := by
  have clock := clock_giveWay (some id) machine
  unfold await at late ⊢
  simp only at late ⊢
  split at late
  · rename_i elapsed
    rw [if_pos elapsed]
    rw [late] at elapsed
    have passed : deadline ≤ (machine.giveWay (some id)).2.clock := by simpa using elapsed
    show (machine.giveWay (some id)).2.clock = _
    omega
  · rename_i before
    rw [if_neg before]
    show ((machine.giveWay (some id)).2.pass (some id) deadline false none).2.clock = _
    rw [clock_pass (by simp) late, clock]

theorem resting_of_await (holds : discipline.Holds machine) {id deadline : Nat}
    (present : Present id machine) (late : (machine.await id deadline).1 = none) :
    deadline ≤ machine.clock ∨ ∃ now wake next, During machine.clock deadline now ∧
      deadline ≤ wake ∧ discipline.resting now id wake next := by
  have kept := holds.giveWay (some id)
  have clock := clock_giveWay (some id) machine
  have stays : (machine.giveWay (some id)).1 = none →
      Present id (machine.giveWay (some id)).2 := by
    intro unknown
    unfold giveWay at unknown ⊢
    split at unknown
    · rename_i spent
      rw [if_pos spent]
      exact present.pass unknown
    · rename_i left
      rw [if_neg left]
      exact present
  unfold await at late
  simp only at late
  split at late
  · rename_i elapsed
    rw [late] at elapsed
    have passed : deadline ≤ (machine.giveWay (some id)).2.clock := by simpa using elapsed
    exact .inl (by omega)
  · rename_i before
    have unknown : (machine.giveWay (some id)).1 = none := by
      cases outcome : (machine.giveWay (some id)).1 with
      | none => rfl
      | some ended => exact absurd (.inl (by rw [outcome]; rfl)) before
    have resting := resting_of_pass kept (stays unknown) (by simp) late
    rw [clock] at resting
    exact .inr resting

/-! ## Waiting for a moment -/

theorem pass_for_nobody (moment : Nat) (goesOn : Bool) (machine : Machine World α)
    (outcome : Option (Except Panic α)) :
    (machine.pass none moment goesOn outcome).1 = outcome := by
  generalize nobody : (none : Option Nat) = awaited
  fun_induction Machine.pass awaited moment goesOn outcome machine with
  | case1 goesOn outcome machine stuck => rfl
  | case2 goesOn outcome machine task rest turn progress after taken verdict inductionHypothesis =>
      exact inductionHypothesis
  | case3 goesOn outcome machine task rest turn progress after taken ended verdict same
      inductionHypothesis =>
      cases nobody.trans same
  | case4 goesOn outcome machine task rest turn progress after taken ended verdict other
      inductionHypothesis =>
      exact inductionHypothesis

/-- The caller may be interrupted before it waits for a moment, at no cost of time. -/
theorem waitWithin_eq (moment deadline : Nat) (usedUp : Bool) (machine : Machine World α) :
    ∃ turn : Machine World α, turn.clock = machine.clock ∧
      machine.waitWithin (some moment) deadline usedUp =
        if moment ≤ turn.clock ∧ turn.allowance ≠ 0 then (true, turn.spend)
        else if deadline ≤ turn.clock then (false, turn.spend)
        else
          (decide (moment ≤ (turn.pass none (min deadline moment) false none).2.clock),
            (turn.pass none (min deadline moment) false none).2.spend) := by
  unfold waitWithin
  simp only [Option.isSome_some, Bool.true_and, Option.any_some, Option.getD_some,
    decide_eq_true_eq]
  split
  · exact ⟨_, clock_giveWay none machine, rfl⟩
  · exact ⟨machine, rfl, rfl⟩

/-- A wait for a moment goes on until it comes, or ends at a deadline that it does not come before.
A moment that has come is only missed at the deadline itself. -/
theorem clock_waitWithin {moment deadline : Nat} {usedUp reached : Bool}
    (early : machine.clock ≤ deadline) (ahead : machine.clock ≤ moment)
    (waited : machine.waitWithin (some moment) deadline usedUp = (reached, after)) :
    (reached = true → after.clock = moment ∧ moment ≤ deadline) ∧
      (reached = false → deadline < moment ∨ moment = deadline ∧ moment = machine.clock) := by
  obtain ⟨turn, kept, shape⟩ := waitWithin_eq moment deadline usedUp machine
  rw [shape] at waited
  split at waited
  · cases waited
    refine ⟨fun _ => ?_, nofun⟩
    show turn.clock = moment ∧ _
    omega
  · split at waited
    · cases waited
      exact ⟨nofun, fun _ => by omega⟩
    · have passed : (turn.pass none (min deadline moment) false none).2.clock =
          max turn.clock (min deadline moment) :=
        clock_pass nofun (pass_for_nobody (min deadline moment) false turn none)
      cases waited
      simp only [decide_eq_true_eq, decide_eq_false_iff_not]
      show (_ → (turn.pass none (min deadline moment) false none).2.clock = _ ∧ _) ∧ _
      rw [passed]
      omega

end Machine

end HttpService
