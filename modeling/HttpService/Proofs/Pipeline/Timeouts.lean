import HttpService.Pipeline.Connection
import HttpService.Proofs.Concurrency.Waiting

/-!
Contract: what reading and writing come to under a timeout.

Owns:
- what the other end makes of reading and of writing if nobody loses patience, and how long it takes
  for this;
- reading and writing come to that if it takes no longer than the timeout, and time out otherwise;
- how much has been written when writing ends.

Does not own: what is read and written.
-/

namespace HttpService

/-! ## Outcomes that come in time -/

/-- An outcome of something that goes on by itself from a moment on, but not beyond a deadline, behind
which there is an outcome of being late. At the deadline itself one may be late only if `instant`. -/
inductive Within {α : Type} (instant : Prop) (now deadline : Nat) (course : Option (α × Nat))
    (late : α → Prop) (outcome : α) : Prop where
  | inTime (time : Nat) (comes : course = some (outcome, time)) (early : now + time ≤ deadline)
  | late (missed : late outcome)
      (long : ∀ value time, course = some (value, time) →
        deadline < now + time ∨ deadline = now + time ∧ instant)

/-- What something comes to after a rest for a span. -/
def delayed {α : Type} (span : Nat) (course : Option (α × Nat)) : Option (α × Nat) :=
  course.map fun (value, time) => (value, restSpan span + time)

theorem of_delayed {α : Type} {span time : Nat} {course : Option (α × Nat)} {value : α}
    (comes : delayed span course = some (value, time)) :
    ∃ behind, course = some (value, behind) ∧ time = restSpan span + behind := by
  obtain ⟨⟨outcome, behind⟩, came, same⟩ := Option.map_eq_some_iff.mp comes
  cases same
  exact ⟨behind, came, rfl⟩

namespace Within

variable {α β : Type} {instant : Prop} {now deadline : Nat} {course : Option (α × Nat)}
  {late : α → Prop} {outcome : α}

theorem at_once (outcome : α) (early : now ≤ deadline) :
    Within instant now deadline (some (outcome, 0)) late outcome :=
  .inTime 0 rfl early

theorem never (missed : late outcome) : Within instant now deadline none late outcome :=
  .late missed nofun

theorem mono {weaker : Prop} (within : Within instant now deadline course late outcome)
    (implied : instant → weaker) : Within weaker now deadline course late outcome := by
  cases within with
  | inTime time comes early => exact .inTime time comes early
  | late missed long =>
      exact .late missed fun value time comes =>
        (long value time comes).imp id fun ⟨same, now⟩ => ⟨same, implied now⟩

/-- A deadline that is a timeout from now. -/
theorem of_timeout {timeout : Nat}
    (within : Within instant now (now + timeout) course late outcome) :
    Within instant 0 timeout course late outcome := by
  cases within with
  | inTime time comes early => exact .inTime time comes (by omega)
  | late missed long =>
      refine .late missed fun value time comes => ?_
      rcases long value time comes with beyond | ⟨same, now⟩
      · exact .inl (by omega)
      · exact .inr ⟨by omega, now⟩

theorem map {lateAfter : β → Prop} (within : Within instant now deadline course late outcome)
    (change : α → β) (kept : late outcome → lateAfter (change outcome)) :
    Within instant now deadline (course.map (Prod.map change id)) lateAfter (change outcome) := by
  cases within with
  | inTime time comes early => exact .inTime time (by rw [comes]; rfl) early
  | late missed long =>
      refine .late (kept missed) fun value time comes => ?_
      obtain ⟨⟨before, moment⟩, came, same⟩ := Option.map_eq_some_iff.mp comes
      cases same
      exact long before moment came

theorem after_rest {span : Nat} (within : Within instant (now + restSpan span) deadline course late
    outcome) : Within instant now deadline (delayed span course) late outcome := by
  cases within with
  | inTime time comes early =>
      refine .inTime (restSpan span + time) ?_ (by omega)
      rw [comes]
      rfl
  | late missed long =>
      refine .late missed fun value time comes => ?_
      obtain ⟨behind, came, rfl⟩ := of_delayed comes
      rw [← Nat.add_assoc]
      exact long value behind came

theorem rest_missed {span : Nat} (missed : late outcome)
    (long : deadline < now + restSpan span ∨ now + restSpan span = deadline ∧ instant) :
    Within instant now deadline (delayed span course) late outcome := by
  refine .late missed fun value time comes => ?_
  obtain ⟨behind, came, rfl⟩ := of_delayed comes
  rcases long with beyond | ⟨same, now⟩
  · exact .inl (by omega)
  · rcases Nat.eq_zero_or_pos behind with rfl | later
    · exact .inr ⟨by omega, now⟩
    · exact .inl (by omega)

end Within

namespace Pipeline

variable {World : Type}

theorem clock_rest {engine after : Engine World} {deadline span : Nat} {usedUp reached : Bool}
    (early : engine.clock ≤ deadline)
    (waited : engine.waitWithin (some (engine.clock + restSpan span)) deadline usedUp =
      (reached, after)) :
    (reached = true → after.clock = engine.clock + restSpan span ∧ after.clock ≤ deadline) ∧
      (reached = false →
        deadline < engine.clock + restSpan span ∨
          engine.clock + restSpan span = deadline ∧ span = 0) := by
  obtain ⟨come, missed⟩ := Machine.clock_waitWithin early (Nat.le_add_right _ _) waited
  constructor
  · intro reached
    obtain ⟨clock, inTime⟩ := come reached
    exact ⟨clock, clock ▸ inTime⟩
  · intro reached
    refine (missed reached).imp id fun ⟨same, current⟩ => ⟨same, ?_⟩
    unfold restSpan longestRest at current
    omega

/-! ## Reading -/

/-- What arrivals come to by themselves, and when; none if they never come to anything. -/
def arrivalCourse (limit maxBody : Nat) (buffer : Bytes) : List Arrival → Option (Receipt × Nat)
  | [] => some (.request buffer, 0)
  | .chunk bytes :: rest =>
      match Wire.absorb limit maxBody buffer bytes with
      | .more held => arrivalCourse limit maxBody held rest
      | .enough held => some (.request held, 0)
      | .uncountable => some (.uncountable, 0)
  | .delay span :: rest => delayed span (arrivalCourse limit maxBody buffer rest)
  | .stall :: _ => none
  | .failure error :: _ => some (.failed error, 0)

/-- What holds of the octets that are held before each read holds of what the arrivals come to. -/
theorem arrivalCourse_induction {limit maxBody : Nat} (held : Bytes → Prop) (ended : Receipt → Prop)
    (exhausted : ∀ buffer, held buffer → ended (.request buffer))
    (more : ∀ buffer bytes after, held buffer →
      Wire.absorb limit maxBody buffer bytes = .more after → held after)
    (enough : ∀ buffer bytes after, held buffer →
      Wire.absorb limit maxBody buffer bytes = .enough after → ended (.request after))
    (uncountable : ∀ buffer bytes, held buffer →
      Wire.absorb limit maxBody buffer bytes = .uncountable → ended .uncountable)
    (failed : ∀ error, ended (.failed error)) (arrivals : List Arrival) :
    ∀ {buffer : Bytes} {receipt : Receipt} {time : Nat}, held buffer →
      arrivalCourse limit maxBody buffer arrivals = some (receipt, time) → ended receipt := by
  induction arrivals with
  | nil =>
      intro buffer receipt time holds comes
      cases comes
      exact exhausted buffer holds
  | cons arrival rest inductionHypothesis =>
      intro buffer receipt time holds comes
      cases arrival with
      | chunk bytes =>
          rw [arrivalCourse] at comes
          cases step : Wire.absorb limit maxBody buffer bytes with
          | more after =>
              rw [step] at comes
              exact inductionHypothesis (more buffer bytes after holds step) comes
          | enough after =>
              rw [step] at comes
              cases comes
              exact enough buffer bytes after holds step
          | uncountable =>
              rw [step] at comes
              cases comes
              exact uncountable buffer bytes holds step
      | delay span =>
          obtain ⟨behind, comes, -⟩ := of_delayed comes
          exact inductionHypothesis holds comes
      | stall => cases comes
      | failure error =>
          cases comes
          exact failed error

/-- Reading comes to what the arrivals come to, or is timed out. -/
theorem within_receive (reading : Reading) (arrivals : List Arrival) :
    ∀ (usedUp : Bool) (buffer : Bytes) (consumed : Nat) {engine : Engine World},
      engine.clock ≤ reading.deadline →
      Within (.delay 0 ∈ arrivals) engine.clock reading.deadline
        (arrivalCourse reading.limit reading.maxBody buffer arrivals) (· = .timedOut)
        (receive reading usedUp buffer consumed arrivals engine).1 := by
  induction arrivals with
  | nil => exact fun _ buffer _ _ early => .at_once _ early
  | cons arrival rest inductionHypothesis =>
      intro usedUp buffer consumed engine early
      cases arrival with
      | chunk bytes =>
          rw [receive, arrivalCourse]
          cases Wire.absorb reading.limit reading.maxBody buffer bytes with
          | more held =>
              exact (inductionHypothesis usedUp held _ early).mono (List.mem_cons_of_mem _)
          | enough held => exact .at_once _ early
          | uncountable => exact .at_once _ early
      | delay span =>
          rw [receive, arrivalCourse]
          split
          · rename_i after waited
            obtain ⟨clock, inTime⟩ := (clock_rest early waited).1 rfl
            have later := inductionHypothesis false buffer consumed inTime
            rw [clock] at later
            exact (later.mono (List.mem_cons_of_mem _)).after_rest
          · rename_i after waited
            refine .rest_missed rfl (((clock_rest early waited).2 rfl).imp id ?_)
            rintro ⟨same, rfl⟩
            exact ⟨same, List.mem_cons_self⟩
      | stall => exact .never rfl
      | failure error => exact .at_once _ early

/-- A request has been read by the deadline. -/
theorem clock_receive (reading : Reading) (arrivals : List Arrival) :
    ∀ (usedUp : Bool) (buffer : Bytes) (consumed : Nat) {engine : Engine World} {bytes : Bytes},
      engine.clock ≤ reading.deadline →
      (receive reading usedUp buffer consumed arrivals engine).1 = .request bytes →
        (receive reading usedUp buffer consumed arrivals engine).2.2.clock ≤ reading.deadline := by
  induction arrivals with
  | nil => exact fun _ _ _ _ _ early _ => early
  | cons arrival rest inductionHypothesis =>
      intro usedUp buffer consumed engine bytes early read
      cases arrival with
      | chunk brought =>
          rw [receive] at read ⊢
          cases step : Wire.absorb reading.limit reading.maxBody buffer brought with
          | more held =>
              rw [step] at read
              exact inductionHypothesis usedUp held _ early read
          | enough held => exact early
          | uncountable => exact early
      | delay span =>
          rw [receive] at read ⊢
          cases waited : engine.waitWithin (some (engine.clock + restSpan span)) reading.deadline
              usedUp with
          | mk reached after =>
              rw [waited] at read
              cases reached with
              | true =>
                  obtain ⟨_, inTime⟩ := (clock_rest early waited).1 rfl
                  exact inductionHypothesis false buffer consumed inTime read
              | false => cases read
      | stall => cases read
      | failure error => cases read

/-! ## Writing -/

/-- What passing on octets comes to by itself, and when; none if it never comes to anything. -/
def flushCourse : List Hindrance → Option (Except TransferError Unit × Nat)
  | [] => some (.ok (), 0)
  | .delay span :: rest => delayed span (flushCourse rest)
  | .stall :: _ => none
  | .failure error :: _ => some (.error error, 0)

/-- What writing octets comes to by itself, and when: what has been taken, and why not all of it. -/
def writeCourse (flushing : List Hindrance) (bytes : Bytes) (uptakes : List Uptake) :
    Option ((Bytes × Except TransferError Unit) × Nat) :=
  if bytes = [] then (flushCourse flushing).map (Prod.map ([], ·) id)
  else
    match uptakes with
    | [] => (flushCourse flushing).map (Prod.map (bytes, ·) id)
    | .takes most :: rest =>
        if most = 0 then some (([], .error writeZero), 0)
        else
          (writeCourse flushing (bytes.drop most) rest).map
            (Prod.map (Prod.map (bytes.take most ++ ·) id) id)
    | .hinders (.delay span) :: rest => delayed span (writeCourse flushing bytes rest)
    | .hinders .stall :: _ => none
    | .hinders (.failure error) :: _ => some (([], .error error), 0)

theorem overcome_delay {engine : Engine World} {deadline : Nat} (early : engine.clock ≤ deadline)
    (span : Nat) (usedUp : Bool) :
    (∃ after, overcome deadline usedUp (.delay span) engine = (.ok (), after) ∧
        after.clock = engine.clock + restSpan span ∧ after.clock ≤ deadline) ∨
      ∃ after, overcome deadline usedUp (.delay span) engine = (.error writeTimedOut, after) ∧
        (deadline < engine.clock + restSpan span ∨
          engine.clock + restSpan span = deadline ∧ span = 0) := by
  unfold overcome
  simp only
  split
  · rename_i after waited
    exact .inl ⟨after, rfl, (clock_rest early waited).1 rfl⟩
  · rename_i after waited
    exact .inr ⟨after, rfl, (clock_rest early waited).2 rfl⟩

/-- Passing on octets comes to what stands in its way, or is timed out. -/
theorem within_flush (deadline : Nat) (flushing : List Hindrance) :
    ∀ (usedUp : Bool) {engine : Engine World}, engine.clock ≤ deadline →
      Within (.delay 0 ∈ flushing) engine.clock deadline (flushCourse flushing)
        (· = .error writeTimedOut) (flush deadline usedUp flushing engine).1 := by
  induction flushing with
  | nil => exact fun _ _ early => .at_once _ early
  | cons hindrance rest inductionHypothesis =>
      intro usedUp engine early
      cases hindrance with
      | delay span =>
          rw [flush, flushCourse]
          rcases overcome_delay early span usedUp with ⟨after, result, clock, inTime⟩ |
            ⟨after, result, long⟩
          · rw [result]
            have later := inductionHypothesis false inTime
            rw [clock] at later
            exact (later.mono (List.mem_cons_of_mem _)).after_rest
          · rw [result]
            refine .rest_missed rfl (long.imp id ?_)
            rintro ⟨same, rfl⟩
            exact ⟨same, List.mem_cons_self⟩
      | stall => exact .never rfl
      | failure error => exact .at_once _ early

/-- Writing comes to what the other end makes of it, or is timed out. -/
theorem within_write (deadline : Nat) (flushing : List Hindrance) (uptakes : List Uptake) :
    ∀ (usedUp : Bool) (bytes : Bytes) {engine : Engine World}, engine.clock ≤ deadline →
      Within (.hinders (.delay 0) ∈ uptakes ∨ .delay 0 ∈ flushing) engine.clock deadline
        (writeCourse flushing bytes uptakes) (fun (_, result) => result = .error writeTimedOut)
        ((write deadline flushing usedUp bytes uptakes engine).1,
          (write deadline flushing usedUp bytes uptakes engine).2.1) := by
  induction uptakes with
  | nil =>
      intro usedUp bytes engine early
      have flushed := within_flush deadline flushing usedUp early
      unfold write writeCourse
      split
      · exact (flushed.map _ id).mono .inr
      · exact (flushed.map _ id).mono .inr
  | cons uptake rest inductionHypothesis =>
      intro usedUp bytes engine early
      unfold write writeCourse
      split
      · exact ((within_flush deadline flushing usedUp early).map _ id).mono .inr
      · have behind : Uptake.hinders (.delay 0) ∈ rest ∨ Hindrance.delay 0 ∈ flushing →
            Uptake.hinders (.delay 0) ∈ uptake :: rest ∨ Hindrance.delay 0 ∈ flushing :=
          Or.imp_left (List.mem_cons_of_mem _)
        cases uptake with
        | takes most =>
            simp only
            split
            · exact .at_once _ early
            · have later := inductionHypothesis usedUp (bytes.drop most) early
              exact (later.map _ id).mono behind
        | hinders hindrance =>
            cases hindrance with
            | delay span =>
                rcases overcome_delay early span usedUp with ⟨after, result, clock, inTime⟩ |
                  ⟨after, result, long⟩
                · simp only [result]
                  have later := inductionHypothesis false bytes inTime
                  rw [clock] at later
                  exact (later.mono behind).after_rest
                · simp only [result]
                  refine .rest_missed rfl (long.imp id ?_)
                  rintro ⟨same, rfl⟩
                  exact ⟨same, .inl List.mem_cons_self⟩
            | stall => exact .never rfl
            | failure error => exact .at_once _ early

/-- What has been written stands at the front of what was to be written, and is all of it if writing
ended well. -/
theorem written_of_write (deadline : Nat) (flushing : List Hindrance) (uptakes : List Uptake) :
    ∀ (usedUp : Bool) (bytes : Bytes) (engine : Engine World),
      (write deadline flushing usedUp bytes uptakes engine).1 <+: bytes ∧
        ((write deadline flushing usedUp bytes uptakes engine).2.1 = .ok () →
          (write deadline flushing usedUp bytes uptakes engine).1 = bytes) := by
  induction uptakes with
  | nil =>
      intro usedUp bytes engine
      unfold write
      split
      · rename_i empty
        exact ⟨List.nil_prefix, fun _ => empty.symm⟩
      · exact ⟨List.prefix_refl _, fun _ => rfl⟩
  | cons uptake rest inductionHypothesis =>
      intro usedUp bytes engine
      unfold write
      split
      · rename_i empty
        exact ⟨List.nil_prefix, fun _ => empty.symm⟩
      · cases uptake with
        | takes most =>
            simp only
            split
            · exact ⟨List.nil_prefix, nofun⟩
            · obtain ⟨part, whole⟩ := inductionHypothesis usedUp (bytes.drop most) engine
              constructor
              · have joined := (List.prefix_append_right_inj (bytes.take most)).mpr part
                rwa [List.take_append_drop] at joined
              · intro ended
                rw [whole ended, List.take_append_drop]
        | hinders hindrance =>
            simp only
            split
            · exact ⟨List.nil_prefix, nofun⟩
            · exact inductionHypothesis false bytes _

end Pipeline

end HttpService
