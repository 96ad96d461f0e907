import HttpService.Proofs.Concurrency.Course
import HttpService.Proofs.Results

/-!
Contract: actions one after another, and the steps of a machine that perform them.

Owns:
- what an action gives that is made of others;
- actions that do not panic, and actions whose results do not depend on the world;
- steps that perform an action: at one moment, and with nothing else changed than the world and
  the log;
- that steps one after another perform actions one after another.

Does not own: jobs, which may wait.
-/

namespace HttpService

variable {World α β γ : Type}

namespace Action

section

variable {action : Action World α} {next : α → Action World β} {now : Nat} {world after : World}

theorem bind_of_ok {value : α} (result : action now world = (.ok value, after)) :
    action.bind next now world = next value now after := by
  unfold bind
  rw [result]

theorem bind_of_error {payload : Panic} (result : action now world = (.error payload, after)) :
    action.bind next now world = (.error payload, after) := by
  unfold bind
  rw [result]

theorem pure_bind (value : α) (next : α → Action World β) : (pure value).bind next = next value :=
  rfl

theorem bind_pure (action : Action World α) : action.bind pure = action := by
  funext now world
  cases result : action now world with
  | mk ended after =>
      cases ended with
      | ok value => exact bind_of_ok result
      | error payload => exact bind_of_error result

theorem bind_assoc (action : Action World α) (next : α → Action World β)
    (last : β → Action World γ) :
    (action.bind next).bind last = action.bind fun value => (next value).bind last := by
  funext now world
  cases result : action now world with
  | mk ended after =>
      cases ended with
      | ok value =>
          rw [bind_of_ok result]
          unfold bind
          rw [result]
      | error payload => rw [bind_of_error result, bind_of_error (bind_of_error result)]

theorem bind_map (action : Action World α) (change : α → β) (next : β → Action World γ) :
    (action.map change).bind next = action.bind fun value => next (change value) :=
  bind_assoc action _ next

theorem fst_map (change : α → β) (action : Action World α) (now : Nat) (world : World) :
    (action.map change now world).1 = (action now world).1.map change := by
  unfold map bind
  split
  · rename_i result
    rw [result]
    rfl
  · rename_i result
    rw [result]
    rfl

theorem snd_map (change : α → β) (action : Action World α) (now : Nat) (world : World) :
    (action.map change now world).2 = (action now world).2 := by
  unfold map bind
  split
  · rename_i result
    rw [result]
    rfl
  · rename_i result
    rw [result]

theorem exists_of_map_ok {change : α → β} {result : β}
    (succeeded : (action.map change now world).1 = .ok result) :
    ∃ value, (action now world).1 = .ok value ∧ change value = result := by
  rw [fst_map] at succeeded
  exact exists_of_map_eq_ok succeeded

theorem eq_of_ok {value : α} (succeeded : (action now world).1 = .ok value) :
    action now world = (.ok value, (action now world).2) :=
  Prod.ext succeeded rfl

theorem eq_of_error {payload : Panic} (panicked : (action now world).1 = .error payload) :
    action now world = (.error payload, (action now world).2) :=
  Prod.ext panicked rfl

/-- A success of two actions is one of either. -/
theorem exists_of_bind_ok {result : β} (succeeded : (action.bind next now world).1 = .ok result) :
    ∃ value after, action now world = (.ok value, after) ∧ (next value now after).1 = .ok result := by
  cases first : action now world with
  | mk ended after =>
      cases ended with
      | ok value =>
          rw [bind_of_ok first] at succeeded
          exact ⟨value, after, rfl, succeeded⟩
      | error payload =>
          rw [bind_of_error first] at succeeded
          cases succeeded

end

/-- An action that never panics. -/
def Calm (action : Action World α) : Prop :=
  ∀ now world payload, (action now world).1 ≠ .error payload

theorem Calm.exists_ok {action : Action World α} (calm : action.Calm) (now : Nat) (world : World) :
    ∃ value after, action now world = (.ok value, after) := by
  cases result : action now world with
  | mk ended after =>
      cases ended with
      | ok value => exact ⟨value, after, rfl⟩
      | error payload => exact absurd (congrArg Prod.fst result) (calm now world payload)

theorem calm_pure (value : α) : (pure value : Action World α).Calm :=
  nofun

theorem Calm.map {action : Action World α} (calm : action.Calm) (change : α → β) :
    (action.map change).Calm := by
  intro now world payload panicked
  obtain ⟨value, after, result⟩ := calm.exists_ok now world
  rw [fst_map, result] at panicked
  cases panicked

/-- An action whose result does not depend on the world. -/
def Oblivious (action : Action World α) : Prop :=
  ∀ now world other, (action now world).1 = (action now other).1

theorem oblivious_pure (value : α) : (pure value : Action World α).Oblivious :=
  fun _ _ _ => rfl

/-- Two actions one after another are oblivious if the first is, and the second after whatever the
first may give. -/
theorem Oblivious.bind {action : Action World α} {next : α → Action World β}
    (oblivious : action.Oblivious)
    (further : ∀ now world value, (action now world).1 = .ok value → (next value).Oblivious) :
    (action.bind next).Oblivious := by
  intro now world other
  have same := oblivious now world other
  cases first : action now world with
  | mk ended after =>
      cases second : action now other with
      | mk otherEnded otherAfter =>
          rw [first, second] at same
          cases same
          cases ended with
          | ok value =>
              rw [bind_of_ok first, bind_of_ok second]
              exact further now world value (congrArg Prod.fst first) now after otherAfter
          | error payload => rw [bind_of_error first, bind_of_error second]

theorem Oblivious.map {action : Action World α} (oblivious : action.Oblivious) (change : α → β) :
    (action.map change).Oblivious :=
  oblivious.bind fun _ _ value _ => oblivious_pure (change value)

end Action

namespace Machine

/-- A step that performs an action: it gives what the action gives at this moment, and changes
nothing but the world, as the action does, and the log. -/
structure Performs (machine : Machine World α) (action : Action World β)
    (step : Except Panic β × Machine World α) : Prop where
  result : step.1 = (action machine.clock machine.world).1
  left : ∃ log,
    step.2 = { machine with world := (action machine.clock machine.world).2, log := log }

namespace Performs

variable {machine : Machine World α} {action : Action World β} {next : β → Action World γ}
  {step : Except Panic β × Machine World α}

theorem clock (performs : machine.Performs action step) : step.2.clock = machine.clock := by
  obtain ⟨log, left⟩ := performs.left
  rw [left]

theorem world (performs : machine.Performs action step) :
    step.2.world = (action machine.clock machine.world).2 := by
  obtain ⟨log, left⟩ := performs.left
  rw [left]

theorem fresh (performs : machine.Performs action step) (fresh : machine.Fresh) :
    step.2.Fresh := by
  obtain ⟨log, left⟩ := performs.left
  rw [left]
  exact ⟨fresh.ready, fresh.interrupted, fresh.sleepers⟩

/-- What is reported does not matter. -/
theorem report (performs : machine.Performs action step) (level : LogLevel) (text : String) :
    machine.Performs action (step.1, step.2.report level text) := by
  obtain ⟨log, left⟩ := performs.left
  exact ⟨performs.result, log ++ [⟨level, text⟩], by rw [left]; rfl⟩

theorem behind_report {level : LogLevel} {text : String}
    (performs : (machine.report level text).Performs action step) : machine.Performs action step :=
  ⟨performs.result, performs.left⟩

theorem behind_reportAll {records : List LogRecord}
    (performs : (machine.reportAll records).Performs action step) : machine.Performs action step :=
  ⟨performs.result, performs.left⟩

end Performs

theorem performs_perform (machine : Machine World α) (action : Action World β) :
    machine.Performs action (machine.perform action) :=
  ⟨rfl, machine.log, rfl⟩

theorem performs_pure (machine : Machine World α) (value : β) :
    machine.Performs (.pure value) (.ok value, machine) :=
  ⟨rfl, machine.log, rfl⟩

/-- Steps one after another perform actions one after another. -/
theorem Performs.andThen {machine : Machine World α} {action : Action World β}
    {next : β → Action World γ} {step : Except Panic β × Machine World α}
    {further : β → Machine World α → Except Panic γ × Machine World α}
    (performs : machine.Performs action step)
    (each : ∀ value after, Performs after (next value) (further value after)) :
    machine.Performs (action.bind next) (Machine.andThen step further) := by
  obtain ⟨result, log, left⟩ := performs
  obtain ⟨ended, after⟩ := step
  cases acted : action machine.clock machine.world with
  | mk outcome world =>
      rw [acted] at result left
      cases result
      cases left
      cases ended with
      | error payload =>
          refine ⟨?_, log, ?_⟩
          · rw [Action.bind_of_error acted]
            rfl
          · rw [Action.bind_of_error acted]
            rfl
      | ok value =>
          obtain ⟨same, records, kept⟩ := each value { machine with world := world, log := log }
          refine ⟨?_, records, ?_⟩
          · rw [Action.bind_of_ok acted]
            exact same
          · rw [Action.bind_of_ok acted]
            exact kept

end Machine

end HttpService
