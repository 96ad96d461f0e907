import HttpService.Proofs.Concurrency.Course

/-!
Contract: what every course of a job leads to.

Owns:
- jobs all of whose values have a property, and how such jobs are put together;
- the values that a job which is waited for is found to have come to;
- the course of a job that begins with an action;
- jobs that rest for too long, which are late.

Does not own: which job has which property.
-/

namespace HttpService.Job

variable {World α β : Type}

/-- Every value that the job may end with has a property, whatever world it meets. -/
def Ensures (post : α → Prop) : Job World α → Prop
  | .done value => post value
  | .panic _ => True
  | .act _ next => ∀ now world, (next now world).Ensures post
  | .sleep _ next => next.Ensures post

theorem Ensures.mono {post weaker : α → Prop} {job : Job World α} (ensures : job.Ensures post)
    (weakens : ∀ value, post value → weaker value) : job.Ensures weaker := by
  induction job with
  | done value => exact weakens value ensures
  | panic payload => exact ensures
  | act change next inductionHypothesis =>
      intro now world
      exact inductionHypothesis now world (ensures now world)
  | sleep wake next inductionHypothesis => exact inductionHypothesis ensures

theorem ensures_true (job : Job World α) : job.Ensures fun _ => True := by
  induction job with
  | done value => exact trivial
  | panic payload => exact trivial
  | act change next inductionHypothesis => exact inductionHypothesis
  | sleep wake next inductionHypothesis => exact inductionHypothesis

theorem Ensures.bind {middle : α → Prop} {post : β → Prop} {job : Job World α}
    {next : α → Job World β} (first : job.Ensures middle)
    (second : ∀ value, middle value → (next value).Ensures post) :
    (job.bind next).Ensures post := by
  induction job with
  | done value => exact second value first
  | panic payload => exact first
  | act change go inductionHypothesis =>
      intro now world
      exact inductionHypothesis now world (first now world)
  | sleep wake go inductionHypothesis => exact inductionHypothesis first

/-- A job that begins with an action ensures what it ensures behind every value of the action. -/
theorem Ensures.ofAction_bind {post : β → Prop} (action : Action World α) {next : α → Job World β}
    (behind : ∀ value, (next value).Ensures post) : ((ofAction action).bind next).Ensures post := by
  unfold ofAction Job.bind
  intro now world
  cases given : (action now world).1 with
  | ok value =>
      simp only [given]
      exact behind value
  | error payload =>
      simp only [given]
      exact trivial

theorem Ensures.of_reaches {post : α → Prop} {job rest : Job World α} {start now : Nat}
    (ensures : job.Ensures post) (reached : job.Reaches start rest now) : rest.Ensures post := by
  induction reached with
  | begin => exact ensures
  | act _ world further => exact further _ world
  | sleep _ _ _ further => exact further

/-- A value that a job has come to has the property that the job ensures. -/
theorem Ensures.of_comes {post : α → Prop} {job : Job World α} {start deadline : Nat} {value : α}
    (ensures : job.Ensures post) (comes : job.Comes start deadline (some (.ok value))) :
    post value := by
  cases comes with
  | ended _ reached => exact ensures.of_reaches reached

/-! ## Jobs that begin with an action -/

/-- How such a job goes on matters for the values that the action can give only. -/
theorem ofAction_bind_congr {action : Action World α} {next other : α → Job World β}
    (same : ∀ now world value, (action now world).1 = .ok value → next value = other value) :
    (ofAction action).bind next = (ofAction action).bind other := by
  unfold ofAction Job.bind
  congr 1
  funext now world
  cases given : (action now world).1 with
  | ok value =>
      simp only [given]
      exact same now world value given
  | error payload =>
      simp only [given]
      rfl

/-- What a job reaches behind its first change is reached from how it goes on at that moment. -/
theorem Reaches.behind_act {change : Nat → World → World} {next : Nat → World → Job World α}
    {start now : Nat} {rest : Job World α} (reached : Reaches (.act change next) start rest now) :
    (rest = .act change next ∧ now = start) ∨
      ∃ world, (next start world).Reaches start rest now := by
  induction reached with
  | begin => exact .inl ⟨rfl, rfl⟩
  | act _ world behind =>
      rcases behind with ⟨same, rfl⟩ | ⟨first, further⟩
      · cases same
        exact .inr ⟨world, .begin⟩
      · exact .inr ⟨first, further.act world⟩
  | sleep _ before elapsed behind =>
      rcases behind with ⟨same, _⟩ | ⟨first, further⟩
      · cases same
      · exact .inr ⟨first, further.sleep before elapsed⟩

/-- A value behind an action is reached behind a value that the action has given. -/
theorem Reaches.behind_action {action : Action World α} {next : α → Job World β} {start now : Nat}
    {last : β} (reached : ((ofAction action).bind next).Reaches start (.done last) now) :
    ∃ world value, (action start world).1 = .ok value ∧
      (next value).Reaches start (.done last) now := by
  rcases reached.behind_act with ⟨same, _⟩ | ⟨world, further⟩
  · cases same
  · cases given : (action start world).1 with
    | ok value =>
        simp only [given] at further
        exact ⟨world, value, given, further⟩
    | error payload =>
        simp only [given] at further
        have ended : (Job.ofOutcome (.error payload)).Reaches start (.done last) now := further
        cases ended.of_outcome

/-- What a job with a first change is found to have come to is what it comes to behind it. -/
theorem Comes.behind_act {change : Nat → World → World} {next : Nat → World → Job World α}
    {start deadline : Nat} {came : Option (Except Panic α)}
    (comes : Comes (.act change next) start deadline came) (time : start < deadline) :
    ∃ world, (next start world).Comes start deadline came := by
  cases comes with
  | ended during reached =>
      rename_i outcome now
      rcases reached.behind_act with ⟨same, _⟩ | ⟨world, further⟩
      · cases outcome <;> cases same
      · exact ⟨world, .ended during further⟩
  | resting reached beyond =>
      rcases reached.behind_act with ⟨same, _⟩ | ⟨world, further⟩
      · cases same
      · exact ⟨world, .resting further beyond⟩
  | noTime elapsed => omega

theorem Comes.behind_pure {value : α} {next : α → Job World β} {start deadline : Nat}
    {came : Option (Except Panic β)}
    (comes : ((ofAction (.pure value)).bind next).Comes start deadline came)
    (time : start < deadline) : (next value).Comes start deadline came := by
  obtain ⟨_, further⟩ := comes.behind_act time
  exact further

/-! ## Late -/

/-- Every course of the job comes to a rest that lasts until a moment or longer. -/
def Outlasts (moment : Nat) : Job World α → Prop
  | .done _ => False
  | .panic _ => False
  | .act _ next => ∀ now world, (next now world).Outlasts moment
  | .sleep wake next => moment ≤ wake ∨ next.Outlasts moment

theorem Outlasts.of_reaches {moment : Nat} {job rest : Job World α} {start now : Nat}
    (outlasts : job.Outlasts moment) (reached : job.Reaches start rest now) :
    rest.Outlasts moment ∨ moment ≤ now := by
  induction reached with
  | begin => exact .inl outlasts
  | act _ world further =>
      rcases further with still | passed
      · exact .inl (still _ world)
      · exact .inr passed
  | sleep _ before elapsed further =>
      rcases further with (long | still) | passed
      · exact .inr (Nat.le_trans long elapsed)
      · exact .inl still
      · exact .inr (Nat.le_trans passed before)

theorem Comes.eq_none_of_outlasts {job : Job World α} {start deadline : Nat}
    {came : Option (Except Panic α)} (comes : job.Comes start deadline came)
    (outlasts : job.Outlasts deadline) (time : start < deadline) : came = none := by
  cases comes with
  | ended during reached =>
      rename_i outcome now
      unfold During at during
      rcases outlasts.of_reaches reached with still | passed
      · cases outcome <;> exact still.elim
      · omega
  | resting => rfl
  | noTime => rfl

end HttpService.Job
