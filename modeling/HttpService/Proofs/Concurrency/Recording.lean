import HttpService.Concurrency.Job

/-!
Contract: jobs that are watched, and jobs that keep a record of what they do.

Owns:
- how a job ends for another one that watches it, which may give it up when it wants to rest;
- worlds with a record beside them, and jobs that add to it;
- jobs that do what another job does, and record besides: **turn by turn they get equally far**;
- the course of such a job with its record, whatever others make of the world beside it;
- **what is known of the record at every moment**, from how a job is put together.

Does not own: what is recorded.
-/

namespace HttpService.Job

variable {World ε α β : Type}

/-! ## Watching a job -/

/-- How a job has ended for one that watches it. -/
inductive Upshot (α : Type) where
  | returned (value : α)
  | panicked (payload : Panic)
  /-- It has been given up when it wanted to rest. These are the moments until which it has rested,
  and at last the one until which it wanted to. -/
  | abandoned (rests : List Nat)

/-- Runs a job, and goes on with how it has ended. It is given up at the first rest at which the
watch does not stay, which knows the moments of all rests so far. -/
def watch (stays : List Nat → Bool) (next : Upshot α → Job World β) (rests : List Nat) :
    Job World α → Job World β
  | done value => next (.returned value)
  | panic payload => next (.panicked payload)
  | act change go => act change fun now world => (go now world).watch stays next rests
  | sleep wake go =>
      if stays (rests ++ [wake]) then sleep wake (go.watch stays next (rests ++ [wake]))
      else next (.abandoned (rests ++ [wake]))

/-- A watch that always stays, and hands on what it has seen, changes nothing. -/
theorem watch_eq_self {next : Upshot α → Job World α}
    (returns : ∀ value, next (.returned value) = done value)
    (panics : ∀ payload, next (.panicked payload) = panic payload) (job : Job World α) :
    ∀ rests, job.watch (fun _ => true) next rests = job := by
  induction job with
  | done value => exact fun _ => returns value
  | panic payload => exact fun _ => panics payload
  | act change go inductionHypothesis =>
      intro rests
      exact congrArg (act change) (funext fun now => funext fun world =>
        inductionHypothesis now world rests)
  | sleep wake go inductionHypothesis =>
      intro rests
      exact congrArg (sleep wake) (inductionHypothesis (rests ++ [wake]))

/-! ## Records -/

/-- A world with a record beside it. -/
abbrev Recorded (World ε : Type) := World × List ε

/-- Adds an event to the record, and goes on. -/
def note (event : ε) (next : Job (Recorded World ε) α) : Job (Recorded World ε) α :=
  .act (fun _ seen => (seen.1, seen.2 ++ [event])) fun _ _ => next

/-- A job that does what another one does, and records besides. It does not see the record. -/
inductive Mirrors : Job (Recorded World ε) α → Job World α → Prop where
  | done (value : α) : Mirrors (.done value) (.done value)
  | panic (payload : Panic) : Mirrors (.panic payload) (.panic payload)
  | act (change : Nat → World → World) {next : Nat → World → Job (Recorded World ε) α}
      {plain : Nat → World → Job World α}
      (further : ∀ now world, Mirrors (next now world) (plain now world)) :
      Mirrors (.act (fun now seen => (change now seen.1, seen.2)) fun now seen => next now seen.1)
        (.act change plain)
  | sleep (wake : Nat) {next : Job (Recorded World ε) α} {plain : Job World α}
      (further : Mirrors next plain) : Mirrors (.sleep wake next) (.sleep wake plain)
  | note (event : ε) {next : Job (Recorded World ε) α} {plain : Job World α}
      (further : Mirrors next plain) : Mirrors (next.note event) plain

/-- The same progress, with what remains doing the same. -/
inductive Progress.Mirrors : Progress (Recorded World ε) α → Progress World α → Prop where
  | finished (value : α) : Mirrors (.finished value) (.finished value)
  | panicked (payload : Panic) : Mirrors (.panicked payload) (.panicked payload)
  | asleep (wake : Nat) {next : Job (Recorded World ε) α} {plain : Job World α}
      (further : next.Mirrors plain) : Mirrors (.asleep wake next) (.asleep wake plain)
  | interrupted {next : Job (Recorded World ε) α} {plain : Job World α}
      (further : next.Mirrors plain) : Mirrors (.interrupted next) (.interrupted plain)

/-- **Turn by turn a job that mirrors another one gets equally far, and leaves the same world.** -/
theorem Mirrors.run {job : Job (Recorded World ε) α} {plain : Job World α}
    (mirrors : job.Mirrors plain) (now allowance : Nat) (world : World) (record : List ε) :
    (job.run now allowance (world, record)).1.Mirrors (plain.run now allowance world).1 ∧
      (job.run now allowance (world, record)).2.1 = (plain.run now allowance world).2 := by
  induction mirrors generalizing allowance world record with
  | done value => exact ⟨.finished value, rfl⟩
  | panic payload => exact ⟨.panicked payload, rfl⟩
  | act change _ inductionHypothesis =>
      exact inductionHypothesis now world allowance (change now world) record
  | sleep wake further inductionHypothesis =>
      cases allowance with
      | zero => exact ⟨.interrupted (.sleep wake further), rfl⟩
      | succ allowance =>
          simp only [Job.run]
          split
          · exact inductionHypothesis allowance world record
          · exact ⟨.asleep wake further, rfl⟩
  | note event _ inductionHypothesis =>
      exact inductionHypothesis allowance world (record ++ [event])

/-- Watched alike, jobs that do the same go on alike. -/
theorem Mirrors.watch {job : Job (Recorded World ε) α} {plain : Job World α}
    {next : Upshot α → Job (Recorded World ε) β} {after : Upshot α → Job World β}
    (mirrors : job.Mirrors plain) (stays : List Nat → Bool)
    (ends : ∀ upshot, (next upshot).Mirrors (after upshot)) :
    ∀ rests, (job.watch stays next rests).Mirrors (plain.watch stays after rests) := by
  induction mirrors with
  | done value => exact fun _ => ends _
  | panic payload => exact fun _ => ends _
  | act change _ inductionHypothesis =>
      exact fun rests => .act change fun now world => inductionHypothesis now world rests
  | sleep wake _ inductionHypothesis =>
      intro rests
      rw [Job.watch, Job.watch]
      split
      · exact .sleep wake (inductionHypothesis _)
      · exact ends _
  | note event _ inductionHypothesis => exact fun rests => .note event (inductionHypothesis rests)

/-! ## Courses -/

/-- What a job can have become, and the record by then. The world that it meets is whatever others
have made of it. -/
inductive Leads (job : Job (Recorded World ε) α) (begun : List ε) :
    Job (Recorded World ε) α → List ε → Prop where
  | outset : Leads job begun job begun
  | act {change : Nat → Recorded World ε → Recorded World ε}
      {next : Nat → Recorded World ε → Job (Recorded World ε) α} {record : List ε} :
      Leads job begun (.act change next) record → ∀ now world,
        Leads job begun (next now (world, record)) (change now (world, record)).2
  | sleep {wake : Nat} {next : Job (Recorded World ε) α} {record : List ε} :
      Leads job begun (.sleep wake next) record → Leads job begun next record

/-- The job that a turn leaves. -/
def Progress.job : Progress World α → Job World α
  | finished value => .done value
  | panicked payload => .panic payload
  | asleep wake next => .sleep wake next
  | interrupted next => next

/-- A turn is a part of a course. -/
theorem Leads.run {job rest : Job (Recorded World ε) α} {begun record : List ε}
    (leads : job.Leads begun rest record) (now allowance : Nat) (world : World) :
    job.Leads begun (rest.run now allowance (world, record)).1.job
      (rest.run now allowance (world, record)).2.2 := by
  induction rest generalizing allowance world record with
  | done value => exact leads
  | panic payload => exact leads
  | act change next inductionHypothesis =>
      exact inductionHypothesis now (world, record) (leads.act now world) allowance _
  | sleep wake next inductionHypothesis =>
      cases allowance with
      | zero => exact leads
      | succ allowance =>
          simp only [Job.run]
          split
          · exact inductionHypothesis leads.sleep allowance world
          · exact leads

/-- What a job is about to do. -/
inductive Stage (α : Type) where
  | returned (value : α)
  /-- It panics or rests, and may be given up. -/
  | stopping
  | acting

def stage : Job World α → Stage α
  | done value => .returned value
  | panic _ => .stopping
  | act .. => .acting
  | sleep .. => .stopping

/-- The stage in which a job has ended so. -/
def Upshot.stage : Upshot α → Stage α
  | returned value => .returned value
  | panicked _ => .stopping
  | abandoned _ => .stopping

/-- On every course of the job that starts with a record, the record fits what the job is about to
do, at every moment. -/
def Writes (fits : Stage α → List ε → Prop) (record : List ε) : Job (Recorded World ε) α → Prop
  | .done value => fits (.returned value) record
  | .panic _ => fits .stopping record
  | .act change next => fits .acting record ∧ ∀ now world,
      (next now (world, record)).Writes fits (change now (world, record)).2
  | .sleep _ next => fits .stopping record ∧ next.Writes fits record

section

variable {fits : Stage α → List ε → Prop} {record : List ε}

theorem writes_note {event : ε} {job : Job (Recorded World ε) α} (now : fits .acting record)
    (writes : job.Writes fits (record ++ [event])) : (job.note event).Writes fits record :=
  ⟨now, fun _ _ => writes⟩

/-- A watch keeps to what the watched job writes, and what it writes itself follows from how that
one has ended. -/
theorem Writes.watch {further : Stage β → List ε → Prop} {job : Job (Recorded World ε) α}
    {stays : List Nat → Bool} {next : Upshot α → Job (Recorded World ε) β}
    (writes : job.Writes fits record)
    (acts : ∀ record, fits .acting record → further .acting record)
    (stops : ∀ record, fits .stopping record → further .stopping record)
    (ends : ∀ upshot record, fits upshot.stage record → (next upshot).Writes further record) :
    ∀ rests, (job.watch stays next rests).Writes further record := by
  induction job generalizing record with
  | done value => exact fun _ => ends (.returned value) record writes
  | panic payload => exact fun _ => ends (.panicked payload) record writes
  | act change go inductionHypothesis =>
      intro rests
      refine ⟨acts record writes.1, ?_⟩
      intro now world
      exact inductionHypothesis now (world, record) (writes.2 now world) rests
  | sleep wake go inductionHypothesis =>
      intro rests
      rw [Job.watch]
      split
      · exact ⟨stops record writes.1, inductionHypothesis writes.2 _⟩
      · exact ends (.abandoned _) record writes.1

/-- **What a job writes by its structure holds on all its courses.** -/
theorem Writes.of_leads {job rest : Job (Recorded World ε) α} {later : List ε}
    (writes : job.Writes fits record) (leads : job.Leads record rest later) :
    fits rest.stage later := by
  have remains : rest.Writes fits later := by
    induction leads with
    | outset => exact writes
    | act _ now world further => exact further.2 now world
    | sleep _ further => exact further.2
  cases rest with
  | done value => exact remains
  | panic payload => exact remains
  | act change next => exact remains.1
  | sleep wake next => exact remains.1

end

end HttpService.Job
