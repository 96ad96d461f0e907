import HttpService.Proofs.Concurrency.Performing

/-!
Contract: jobs that always come to a value.

Owns:
- jobs that do not panic, with a property of all their values, which may rest or may not;
- how such jobs are put together;
- what such a job is found to have come to: a value with the property, unless it rests too long.

Does not own: which jobs these are.
-/

namespace HttpService.Job

variable {World α β : Type}

/-- Whatever world it meets, the job does not panic, and every value that it may end with has a
property. Unless `rests`, it does not rest either. -/
def Yields (rests : Bool) (post : α → Prop) : Job World α → Prop
  | .done value => post value
  | .panic _ => False
  | .act _ next => ∀ now world, (next now world).Yields rests post
  | .sleep _ next => rests = true ∧ next.Yields rests post

theorem Yields.bind {rests : Bool} {middle : α → Prop} {post : β → Prop} {job : Job World α}
    {next : α → Job World β} (first : job.Yields rests middle)
    (second : ∀ value, middle value → (next value).Yields rests post) :
    (job.bind next).Yields rests post := by
  induction job with
  | done value => exact second value first
  | panic payload => exact first
  | act change go inductionHypothesis =>
      intro now world
      exact inductionHypothesis now world (first now world)
  | sleep wake go inductionHypothesis => exact ⟨first.1, inductionHypothesis first.2⟩

/-- An action that does not panic takes no rest. -/
theorem yields_ofAction {rests : Bool} {action : Action World α} (calm : action.Calm) :
    (ofAction action).Yields rests fun _ => True := by
  intro now world
  cases given : (action now world).1 with
  | ok value =>
      simp only [given]
      exact trivial
  | error payload => exact absurd given (calm now world payload)

theorem Yields.of_reaches {rests : Bool} {post : α → Prop} {job rest : Job World α}
    {start now : Nat} (yields : job.Yields rests post) (reached : job.Reaches start rest now) :
    rest.Yields rests post := by
  induction reached with
  | begin => exact yields
  | act _ world further => exact further _ world
  | sleep _ _ _ further => exact further.2

/-- **What always comes to a value is found to have come to one**, if there is time at all and the
job is not late by its rests. -/
theorem Yields.of_comes {rests : Bool} {post : α → Prop} {job : Job World α}
    {start deadline : Nat} {came : Option (Except Panic α)} (yields : job.Yields rests post)
    (comes : job.Comes start deadline came) (time : start < deadline)
    (inTime : rests = true → came ≠ none) : ∃ value, came = some (.ok value) ∧ post value := by
  cases comes with
  | ended during reached =>
      rename_i outcome now
      have ended := yields.of_reaches reached
      cases outcome with
      | ok value => exact ⟨value, rfl, ended⟩
      | error payload => exact ended.elim
  | resting reached beyond => exact absurd rfl (inTime (yields.of_reaches reached).1)
  | noTime elapsed => omega

end HttpService.Job
