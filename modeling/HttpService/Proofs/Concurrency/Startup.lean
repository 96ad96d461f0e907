import HttpService.Startup
import Mathlib.Data.List.Nodup

/-!
Contract: no registration is lost between the setup of a service and its start.

Owns:
- what the turns of registrations and starts keep: who holds the lock, who has marked the service as
  started, and which changes the pipeline is made of;
- registrations and starts that nobody interrupts, which are those of the service;
- **whatever has been registered is served**, however registrations and starts take their turns.

Does not own: what is registered.
-/

namespace HttpService

variable {World : Type}

/-! ## Registrations -/

namespace Registrant

/-- A service that has started refuses it by its name. -/
theorem register_of_started (registrant : Registrant World) (pipeline : Pipeline World) :
    registrant.register ⟨pipeline, true⟩ =
      (some (.afterStart registrant.what), ⟨pipeline, true⟩, []) := by
  cases registrant <;> rfl

/-- A registration changes nothing but the pipeline. -/
theorem service_register (registrant : Registrant World) (pipeline : Pipeline World) :
    (registrant.register ⟨pipeline, false⟩).2.1 = ⟨(registrant.apply pipeline).2, false⟩ := by
  cases registrant <;> rfl

end Registrant

/-- Whether a registration has made its change, as far as it goes. -/
def Registering.hasChanged : Registering → Bool
  | returned => true
  | failed _ => true
  | _ => false

theorem Registering.ofChange_ne_admitted (error : Option RegistrationError) :
    ofChange error ≠ admitted := by
  cases error <;> nofun

theorem Registering.hasChanged_ofChange (error : Option RegistrationError) :
    (ofChange error).hasChanged = true := by
  cases error <;> rfl

namespace Starting

/-- Whether a start has marked the service as started, and has not failed to get its address. -/
def isPast : Starting World → Bool
  | claimed => true
  | prepared _ => true
  | serving _ => true
  | ended _ => true
  | _ => false

/-- What a start reports when it serves, or never will. -/
def report? : Starting World → Option (Except Panic (Except ServiceError Unit))
  | serving _ => some (.ok (.ok ()))
  | refused => some (.ok (.error .alreadyStarted))
  | failed error => some (.ok (.error (.transfer error)))
  | ended (.ok ()) => some (.ok (.ok ()))
  | ended (.error payload) => some (.error payload)
  | _ => none

theorem report?_bound (snapshot : Pipeline World) :
    (bound snapshot).report? =
      some
        (if Service.maxPermits < snapshot.config.maxConnections then
          .error Service.tooManyPermits
        else .ok (.ok ())) := by
  unfold bound
  split <;> rfl

/-- The pipeline that a start serves, or is about to serve. -/
def snapshot? : Starting World → Option (Pipeline World)
  | prepared snapshot => some snapshot
  | serving snapshot => some snapshot
  | _ => none

theorem isPast_bound (snapshot : Pipeline World) : (bound snapshot).isPast = true := by
  unfold bound
  split <;> rfl

theorem eq_of_snapshot?_bound {snapshot served : Pipeline World}
    (serves : (bound snapshot).snapshot? = some served) : served = snapshot := by
  unfold bound at serves
  split at serves
  · cases serves
  · exact (Option.some.inj serves).symm

theorem isPast_of_snapshot? {stage : Starting World} {snapshot : Pipeline World}
    (taken : stage.snapshot? = some snapshot) : stage.isPast = true := by
  cases stage with
  | prepared => rfl
  | serving => rfl
  | _ => cases taken

end Starting

namespace Startup

/-- What registrations make of a pipeline, one after the other. -/
def replay (registrants : Nat → Registrant World) (pipeline : Pipeline World) (order : List Nat) :
    Pipeline World :=
  order.foldl (fun pipeline index => ((registrants index).apply pipeline).2) pipeline

/-- The pipeline is made of the changes of some registrations, each of which has made its own once.
-/
structure Recorded (registrants : Nat → Registrant World) (pipeline : Pipeline World)
    (state : Startup World) (order : List Nat) : Prop where
  distinct : order.Nodup
  members : ∀ index, index ∈ order ↔ (state.registrations index).hasChanged = true
  replayed : state.service.pipeline = replay registrants pipeline order

/-- What every turn keeps. -/
structure Sound (registrants : Nat → Registrant World) (pipeline : Pipeline World)
    (state : Startup World) : Prop where
  lock : ∀ index, state.registrations index = .admitted ↔ state.lock = some index
  started : state.service.started = true ↔ ∃ index, (state.starts index).isPast = true
  alone : ∀ first second, (state.starts first).isPast = true →
    (state.starts second).isPast = true → first = second
  snapshot : ∀ index snapshot, (state.starts index).snapshot? = some snapshot →
    state.lock = none ∧ snapshot = state.service.pipeline
  recorded : ∃ order, Recorded registrants pipeline state order

variable {registrants : Nat → Registrant World} {pipeline : Pipeline World}
  {state after : Startup World}

theorem sound_opened : Sound registrants pipeline (.opened pipeline) where
  lock _ := ⟨nofun, nofun⟩
  started := ⟨nofun, nofun⟩
  alone _ _ past := nomatch past
  snapshot _ _ taken := nomatch taken
  recorded := ⟨[], List.nodup_nil, fun _ => ⟨nofun, nofun⟩, rfl⟩

/-- A pipeline and registrations that stay as they are. -/
theorem Sound.recorded_congr (sound : Sound registrants pipeline state)
    (stages : ∀ index, (after.registrations index).hasChanged =
      (state.registrations index).hasChanged)
    (unchanged : after.service.pipeline = state.service.pipeline) :
    ∃ order, Recorded registrants pipeline after order := by
  obtain ⟨order, recorded⟩ := sound.recorded
  refine ⟨order, recorded.distinct, ?_, unchanged.trans recorded.replayed⟩
  intro index
  rw [stages, recorded.members]

/-- What holds of the new stage of one registration, and of the stages of all others. -/
theorem forall_setRegistration {index : Nat} {stage : Registering}
    (motive : Nat → Registering → Prop) (itself : motive index stage)
    (others : ∀ other, other ≠ index → motive other (state.registrations other)) (other : Nat) :
    motive other ((state.setRegistration index stage).registrations other) := by
  by_cases same : other = index
  · rw [same, setRegistration_self]
    exact itself
  · rw [setRegistration_of_ne _ _ same]
    exact others other same

/-- What holds of the new stage of one start, and of the stages of all others. -/
theorem forall_setStart {index : Nat} {stage : Starting World}
    (motive : Nat → Starting World → Prop) (itself : motive index stage)
    (others : ∀ other, other ≠ index → motive other (state.starts other)) (other : Nat) :
    motive other ((state.setStart index stage).starts other) := by
  by_cases same : other = index
  · rw [same, setStart_self]
    exact itself
  · rw [setStart_of_ne _ _ same]
    exact others other same

/-- A registration that comes to another stage without making its change. -/
theorem hasChanged_setRegistration {index : Nat} {stage : Registering}
    (kept : stage.hasChanged = (state.registrations index).hasChanged) :
    ∀ other, ((state.setRegistration index stage).registrations other).hasChanged =
      (state.registrations other).hasChanged :=
  forall_setRegistration (fun other stage => stage.hasChanged = (state.registrations other).hasChanged)
    kept fun _ _ => rfl

/-- A start that comes to another stage, and counts as before. -/
theorem isPast_setStart {index : Nat} {stage : Starting World}
    (kept : stage.isPast = (state.starts index).isPast) :
    ∀ other, ((state.setStart index stage).starts other).isPast = (state.starts other).isPast :=
  forall_setStart (fun other stage => stage.isPast = (state.starts other).isPast) kept fun _ _ => rfl

theorem replay_concat (order : List Nat) (index : Nat) :
    replay registrants pipeline (order ++ [index]) =
      ((registrants index).apply (replay registrants pipeline order)).2 := by
  unfold replay
  rw [List.foldl_append]
  rfl

namespace Sound

/-! ### Turns of registrations -/

/-- Nobody else waits to change what a registration holds. -/
theorem registrations_ne_admitted (sound : Sound registrants pipeline state) {index other : Nat}
    (held : state.lock = none ∨ state.lock = some index) (different : other ≠ index) :
    state.registrations other ≠ .admitted := by
  intro admitted
  have holder := (sound.lock other).mp admitted
  rcases held with free | held
  · rw [free] at holder
    cases holder
  · rw [held] at holder
    exact different (Option.some.inj holder).symm

/-- A service that has not started has no start that counts. -/
theorem not_isPast (sound : Sound registrants pipeline state)
    (fresh : ¬ state.service.started = true) (index : Nat) :
    ¬ (state.starts index).isPast = true :=
  fun past => fresh (sound.started.mpr ⟨index, past⟩)

theorem enter (sound : Sound registrants pipeline state) {index : Nat}
    (taken : state.step? registrants (.enter index) = some after) :
    Sound registrants pipeline after := by
  simp only [step?] at taken
  split at taken
  · rename_i free waits
    have unchanged : (state.registrations index).hasChanged = false := by rw [waits]; rfl
    split at taken
    · -- The service has started: nothing but the stage of the registration changes.
      cases taken
      refine { sound with lock := ?_, recorded := ?_ }
      · exact forall_setRegistration (fun other stage => stage = .admitted ↔ state.lock = some other)
          ⟨nofun, fun held => nomatch free.symm.trans held⟩ fun other _ => sound.lock other
      · exact sound.recorded_congr (hasChanged_setRegistration unchanged.symm) rfl
    · -- It has not: no start is past its claim, so that no snapshot has been taken.
      rename_i fresh
      cases taken
      refine { sound with lock := ?_, snapshot := ?_, recorded := ?_ }
      · refine forall_setRegistration (fun other stage => stage = .admitted ↔ some index = some other)
          (iff_of_true rfl rfl) fun other different => ?_
        exact iff_of_false (sound.registrations_ne_admitted (.inl free) different)
          fun held => different (Option.some.inj held).symm
      · intro other snapshot prepared
        exact absurd (Starting.isPast_of_snapshot? prepared) (sound.not_isPast fresh other)
      · exact sound.recorded_congr (hasChanged_setRegistration unchanged.symm) rfl
  · cases taken

theorem commit (sound : Sound registrants pipeline state) {index : Nat}
    (taken : state.step? registrants (.commit index) = some after) :
    Sound registrants pipeline after := by
  simp only [step?] at taken
  split at taken
  · rename_i admitted
    have held := (sound.lock index).mp admitted
    obtain ⟨order, recorded⟩ := sound.recorded
    cases taken
    refine { sound with lock := ?_, snapshot := ?_, recorded := ⟨order ++ [index], ?_, ?_, ?_⟩ }
    · exact forall_setRegistration (fun other stage => stage = .admitted ↔ none = some other)
        (iff_of_false (Registering.ofChange_ne_admitted _) nofun) fun other different =>
          iff_of_false (sound.registrations_ne_admitted (.inr held) different) nofun
    · intro other snapshot prepared
      -- A snapshot is taken of a service that nobody holds.
      exact nomatch held.symm.trans (sound.snapshot other snapshot prepared).1
    · have outside : index ∉ order := by
        rw [recorded.members, admitted]
        nofun
      rw [← List.concat_eq_append]
      exact .concat outside recorded.distinct
    · refine forall_setRegistration
        (fun other stage => other ∈ order ++ [index] ↔ stage.hasChanged = true)
        (iff_of_true (by simp) (Registering.hasChanged_ofChange _)) fun other different => ?_
      simpa [different] using recorded.members other
    · rw [replay_concat, ← recorded.replayed]
  · cases taken

/-! ### Turns of starts -/

/-- A start that comes to another stage, and counts as before. -/
theorem setStart (sound : Sound registrants pipeline state) {index : Nat} {stage : Starting World}
    (kept : stage.isPast = (state.starts index).isPast)
    (current : ∀ snapshot, stage.snapshot? = some snapshot →
      state.lock = none ∧ snapshot = state.service.pipeline) :
    Sound registrants pipeline (state.setStart index stage) := by
  refine { sound with
    started := ?_, alone := ?_, snapshot := ?_, recorded := sound.recorded_congr (fun _ => rfl) rfl }
  · simp only [isPast_setStart kept]
    exact sound.started
  · intro first second
    rw [isPast_setStart kept, isPast_setStart kept]
    exact sound.alone first second
  · exact forall_setStart
      (fun _ stage => ∀ snapshot, stage.snapshot? = some snapshot →
        state.lock = none ∧ snapshot = state.service.pipeline)
      current fun other _ => sound.snapshot other

/-- The service is marked for a start that counts from now on, or no longer counts, when no other
start counts. -/
theorem mark (sound : Sound registrants pipeline state) {index : Nat} {stage : Starting World}
    (others : ∀ other, other ≠ index → ¬ (state.starts other).isPast = true)
    (early : stage.snapshot? = none) :
    Sound registrants pipeline ((state.setStart index stage).mark stage.isPast) := by
  have only : ∀ other, ((state.setStart index stage).starts other).isPast = true →
      other = index ∧ stage.isPast = true :=
    forall_setStart (fun other past => past.isPast = true → other = index ∧ stage.isPast = true)
      (fun past => ⟨rfl, past⟩) fun other different past => absurd past (others other different)
  refine { sound with
    started := ?_, alone := ?_, snapshot := ?_, recorded := sound.recorded_congr (fun _ => rfl) rfl }
  · constructor
    · intro started
      exact ⟨index, (congrArg Starting.isPast (setStart_self ..)).trans started⟩
    · rintro ⟨other, past⟩
      exact (only other past).2
  · intro first second firstPast secondPast
    exact (only first firstPast).1.trans (only second secondPast).1.symm
  · refine forall_setStart
      (fun _ stage => ∀ snapshot, stage.snapshot? = some snapshot →
        state.lock = none ∧ snapshot = state.service.pipeline) ?_ fun other _ => sound.snapshot other
    intro snapshot prepared
    cases early.symm.trans prepared

theorem claim (sound : Sound registrants pipeline state) {index : Nat}
    (taken : state.step? registrants (.claim index) = some after) :
    Sound registrants pipeline after := by
  simp only [step?] at taken
  split at taken
  · rename_i waits
    split at taken
    · cases taken
      refine sound.setStart ?_ nofun
      rw [waits]
      rfl
    · rename_i fresh
      cases taken
      exact sound.mark (fun other _ => sound.not_isPast fresh other) rfl
  · cases taken

theorem takeSnapshot (sound : Sound registrants pipeline state) {index : Nat}
    (taken : state.step? registrants (.snapshot index) = some after) :
    Sound registrants pipeline after := by
  simp only [step?] at taken
  split at taken
  · rename_i free claimed
    cases taken
    refine sound.setStart ?_ ?_
    · rw [claimed]
      rfl
    · intro snapshot prepared
      exact ⟨free, (Option.some.inj prepared).symm⟩
  · cases taken

theorem bind (sound : Sound registrants pipeline state) {index : Nat}
    {result : Except TransferError Unit}
    (taken : state.step? registrants (.bind index result) = some after) :
    Sound registrants pipeline after := by
  simp only [step?] at taken
  split at taken
  · rename_i snapshot prepared
    have current := sound.snapshot index snapshot (by rw [prepared]; rfl)
    cases taken
    refine sound.setStart ?_ ?_
    · rw [prepared, Starting.isPast_bound]
      rfl
    · intro served serves
      rw [Starting.eq_of_snapshot?_bound serves]
      exact current
  · rename_i snapshot error prepared
    cases taken
    have past : (state.starts index).isPast = true := by rw [prepared]; rfl
    refine sound.mark (fun other different otherPast => ?_) rfl
    exact different (sound.alone other index otherPast past)
  · cases taken

theorem stop (sound : Sound registrants pipeline state) {index : Nat}
    (taken : state.step? registrants (.stop index) = some after) :
    Sound registrants pipeline after := by
  simp only [step?] at taken
  split at taken
  · rename_i snapshot serves
    cases taken
    refine sound.setStart ?_ nofun
    rw [serves]
    rfl
  · cases taken

theorem step (sound : Sound registrants pipeline state) {turn : Turn}
    (taken : state.step? registrants turn = some after) : Sound registrants pipeline after := by
  cases turn with
  | enter => exact sound.enter taken
  | commit => exact sound.commit taken
  | claim => exact sound.claim taken
  | snapshot => exact sound.takeSnapshot taken
  | bind => exact sound.bind taken
  | stop => exact sound.stop taken

end Sound

theorem Reachable.sound (reachable : Reachable registrants pipeline state) :
    Sound registrants pipeline state := by
  induction reachable with
  | opened => exact sound_opened
  | step _ taken inductionHypothesis => exact inductionHypothesis.step taken

/-- Turns that can be taken one after the other lead from one state that callers can bring the
service to, to another. -/
theorem Reachable.run {before : Startup World} (reached : Reachable registrants pipeline before)
    (turns : List Turn) (taken : turns.foldlM (step? registrants) before = some after) :
    Reachable registrants pipeline after := by
  induction turns generalizing before with
  | nil =>
    cases taken
    exact reached
  | cons turn rest inductionHypothesis =>
    obtain ⟨middle, first, others⟩ := Option.bind_eq_some_iff.mp taken
    exact inductionHypothesis (reached.step first) others

/-! ## Turns that can be taken -/

theorem step?_enter {index : Nat} (free : state.lock = none)
    (waits : state.registrations index = .waiting) (fresh : state.service.started = false) :
    state.step? registrants (.enter index) =
      some { state.setRegistration index .admitted with lock := some index } := by
  simp only [step?, free, waits, fresh, Bool.false_eq_true, if_false]

theorem step?_enter_of_started {index : Nat} (free : state.lock = none)
    (waits : state.registrations index = .waiting) (started : state.service.started = true) :
    state.step? registrants (.enter index) =
      some (state.setRegistration index
        (.refused (.afterStart (registrants index).what))) := by
  simp only [step?, free, waits, started, if_true]

theorem step?_commit {index : Nat} (admitted : state.registrations index = .admitted) :
    state.step? registrants (.commit index) =
      some
        { state.setRegistration index (.ofChange ((registrants index).apply state.service.pipeline).1)
          with
            service :=
              { state.service with
                pipeline := ((registrants index).apply state.service.pipeline).2 }
            lock := none } := by
  simp only [step?, admitted]

theorem step?_claim {index : Nat} (waits : state.starts index = .waiting)
    (fresh : state.service.started = false) :
    state.step? registrants (.claim index) = some ((state.setStart index .claimed).mark true) := by
  simp only [step?, waits, fresh, Bool.false_eq_true, if_false]

theorem step?_claim_of_started {index : Nat} (waits : state.starts index = .waiting)
    (started : state.service.started = true) :
    state.step? registrants (.claim index) = some (state.setStart index .refused) := by
  simp only [step?, waits, started, if_true]

theorem step?_snapshot {index : Nat} (free : state.lock = none)
    (claimed : state.starts index = .claimed) :
    state.step? registrants (.snapshot index) =
      some (state.setStart index (.prepared state.service.pipeline)) := by
  simp only [step?, free, claimed]

theorem step?_bind {index : Nat} {snapshot : Pipeline World}
    (prepared : state.starts index = .prepared snapshot) :
    state.step? registrants (.bind index (.ok ())) =
      some (state.setStart index (.bound snapshot)) := by
  simp only [step?, prepared]

theorem step?_bind_error {index : Nat} {snapshot : Pipeline World} {error : TransferError}
    (prepared : state.starts index = .prepared snapshot) :
    state.step? registrants (.bind index (.error error)) =
      some ((state.setStart index (.failed error)).mark false) := by
  simp only [step?, prepared]

/-! ## Callers that nobody interrupts -/

/-- A registration that comes now, and is not interrupted, is that of the service. -/
def Registers (registrants : Nat → Registrant World) (state : Startup World) (index : Nat) : Prop :=
  ∃ entered changed, state.step? registrants (.enter index) = some entered ∧
    entered.step? registrants (.commit index) = some changed ∧
    changed.service = ((registrants index).register state.service).2.1 ∧
    changed.registrations index = .ofChange ((registrants index).register state.service).1

/-- A start that comes now, and is not interrupted, is that of the service, whatever it gets when it
asks for its address. -/
def Starts (registrants : Nat → Registrant World) (state : Startup World) (index : Nat) : Prop :=
  ∀ result, ∃ claimed prepared bound, state.step? registrants (.claim index) = some claimed ∧
    claimed.step? registrants (.snapshot index) = some prepared ∧
    prepared.step? registrants (.bind index result) = some bound ∧
    bound.service = (state.service.start result).2.1 ∧
    (bound.starts index).report? = some (state.service.start result).1

theorem registers_of_fresh {index : Nat} (free : state.lock = none)
    (fresh : state.service.started = false) (waits : state.registrations index = .waiting) :
    state.Registers registrants index := by
  have service : state.service = ⟨state.service.pipeline, false⟩ := by rw [← fresh]
  refine ⟨_, _, step?_enter free waits fresh, step?_commit (setRegistration_self ..), ?_, ?_⟩
  · rw [service, Registrant.service_register]
    exact congrArg (Service.mk _) fresh
  · rw [service]
    exact setRegistration_self ..

theorem starts_of_fresh {index : Nat} (free : state.lock = none)
    (fresh : state.service.started = false) (waits : state.starts index = .waiting) :
    state.Starts registrants index := by
  have prepared : (((state.setStart index .claimed).mark true).setStart index
      (.prepared state.service.pipeline)).starts index = .prepared state.service.pipeline :=
    setStart_self ..
  intro result
  unfold Service.start
  rw [if_neg (by simp [fresh])]
  cases result with
  | error error =>
    refine ⟨_, _, _, step?_claim waits fresh, step?_snapshot free (setStart_self ..),
      step?_bind_error prepared, ?_, ?_⟩
    · exact congrArg (Service.mk _) fresh.symm
    · exact congrArg Starting.report? (setStart_self ..)
  | ok =>
    refine ⟨_, _, _, step?_claim waits fresh, step?_snapshot free (setStart_self ..),
      step?_bind prepared, rfl, ?_⟩
    rw [setStart_self, Starting.report?_bound]

/-! ## What callers can rely on -/

/-- The service is only marked as started for as long as one start is past its claim. -/
theorem Sound.started_iff_unique (sound : Sound registrants pipeline state) :
    state.service.started = true ↔ ∃! index, (state.starts index).isPast = true := by
  rw [sound.started]
  constructor
  · rintro ⟨index, past⟩
    exact ⟨index, past, fun other otherPast => sound.alone other index otherPast past⟩
  · rintro ⟨index, past, -⟩
    exact ⟨index, past⟩

theorem Sound.free_of_serving (sound : Sound registrants pipeline state) {index : Nat}
    {snapshot : Pipeline World} (serves : state.starts index = .serving snapshot) :
    state.lock = none ∧ state.service.started = true := by
  have taken : (state.starts index).snapshot? = some snapshot := by rw [serves]; rfl
  exact ⟨(sound.snapshot index snapshot taken).1,
    sound.started.mpr ⟨index, Starting.isPast_of_snapshot? taken⟩⟩

/-- What is served is what registrations have made of the pipeline so far. -/
theorem Sound.served (sound : Sound registrants pipeline state) {index : Nat}
    {snapshot : Pipeline World} (serves : state.starts index = .serving snapshot) :
    ∃ order : List Nat, order.Nodup ∧
      (∀ other, other ∈ order ↔ (state.registrations other).hasChanged = true) ∧
      snapshot = replay registrants pipeline order := by
  obtain ⟨order, recorded⟩ := sound.recorded
  refine ⟨order, recorded.distinct, recorded.members, ?_⟩
  rw [(sound.snapshot index snapshot (by rw [serves]; rfl)).2, recorded.replayed]

/-- A start that does not get its address leaves the service as if it had not come. -/
theorem Sound.fresh_of_bind_error (sound : Sound registrants pipeline state) {index : Nat}
    {error : TransferError}
    (taken : state.step? registrants (.bind index (.error error)) = some after) :
    after.lock = none ∧ after.service = ⟨state.service.pipeline, false⟩ := by
  simp only [step?] at taken
  split at taken
  · nomatch (‹Except.error error = Except.ok ()›)
  · rename_i snapshot _ prepared same
    cases taken
    exact ⟨(sound.snapshot index snapshot (by rw [prepared]; rfl)).1, rfl⟩
  · cases taken

/-- **Whatever has been registered is served.** However registrations and starts take their turns,
the service is marked as started for exactly as long as one start is past its claim and has not
failed. What is served comes from all registrations that have made their change, in some order;
others come too late, as do other starts. A start that fails leaves the service to all who wait. -/
theorem registered_served (reachable : Reachable registrants pipeline state) :
    (state.service.started = true ↔ ∃! index, (state.starts index).isPast = true) ∧
      (∀ index snapshot, state.starts index = .serving snapshot →
        (∃ order : List Nat, order.Nodup ∧
          (∀ other, other ∈ order ↔ (state.registrations other).hasChanged = true) ∧
          snapshot = replay registrants pipeline order) ∧
        (∀ other, state.registrations other ≠ .admitted) ∧
        (∀ other, state.registrations other = .waiting →
          state.step? registrants (.enter other) =
            some (state.setRegistration other
              (.refused (.afterStart (registrants other).what)))) ∧
        ∀ other, state.starts other = .waiting →
          state.step? registrants (.claim other) = some (state.setStart other .refused)) ∧
      ∀ index error after, state.step? registrants (.bind index (.error error)) = some after →
        (∀ other, after.registrations other = .waiting → after.Registers registrants other) ∧
        ∀ other, after.starts other = .waiting → after.Starts registrants other := by
  have sound := reachable.sound
  refine ⟨sound.started_iff_unique, ?_, ?_⟩
  · intro index snapshot serves
    obtain ⟨free, started⟩ := sound.free_of_serving serves
    refine ⟨sound.served serves, ?_, ?_, ?_⟩
    · intro other admitted
      exact nomatch free.symm.trans ((sound.lock other).mp admitted)
    · exact fun other waits => step?_enter_of_started free waits started
    · exact fun other waits => step?_claim_of_started waits started
  · intro index error after taken
    obtain ⟨free, service⟩ := sound.fresh_of_bind_error taken
    have fresh : after.service.started = false := by rw [service]
    exact ⟨fun other => registers_of_fresh free fresh, fun other => starts_of_fresh free fresh⟩

/-- Middleware, a responder that comes after it, and a route. -/
def racing : Nat → Registrant Unit
  | 0 => .middleware Chain.proceed
  | 1 => .responder .notFound fun response _ _ world => (.ok response, world)
  | _ => .route "/a" .empty

/-- One start fails to get its address, and another gets it. The middleware is registered before the
first one comes, the responder before the second one. The route comes too late for the first one,
and is not served. -/
theorem registered_served_racing :
    ∃ state snapshot, Reachable racing ⟨.default, .empty, .empty, [], .empty⟩ state ∧
      state.starts 1 = .serving snapshot ∧
      (state.registrations 0 = .returned ∧ state.registrations 1 = .returned ∧
        state.registrations 2 = .refused (.afterStart "routes")) ∧
      ∃ order : List Nat, 0 ∈ order ∧ 1 ∈ order ∧ 2 ∉ order ∧
        snapshot = replay racing ⟨.default, .empty, .empty, [], .empty⟩ order := by
  have reachable : Reachable racing ⟨.default, .empty, .empty, [], .empty⟩ _ :=
    Reachable.opened.run [.enter 0, .claim 0, .commit 0, .enter 2, .snapshot 0,
      .bind 0 (.error ⟨.other, "occupied"⟩), .enter 1, .claim 1, .commit 1, .snapshot 1,
      .bind 1 (.ok ())] rfl
  obtain ⟨⟨order, -, members, served⟩, -⟩ := (registered_served reachable).2.1 1 _ rfl
  exact ⟨_, _, reachable, rfl, ⟨rfl, rfl, rfl⟩, order, (members 0).mpr rfl, (members 1).mpr rfl,
    (fun member => nomatch (members 2).mp member), served⟩

end Startup

end HttpService
