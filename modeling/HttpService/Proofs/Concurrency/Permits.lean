import HttpService.Scenario.Loopback
import Mathlib.Data.List.Nodup

/-!
Contract: permits for connections are neither lost nor used twice.

Owns:
- who is being served after all that has happened, told from what has happened alone;
- what arrivals and departures keep: every permit is free, or held by one visit that runs;
- **no more connections are served at once than the limit allows, and whoever comes while as many
  are served is turned away**, however connections come and tasks end;
- clients on the same machine, one after another, as one such run.

Does not own: what is served.
-/

namespace HttpService

namespace Listener

/-! ## Who is being served -/

def Occurrence.admitted? : Occurrence → Option Visit
  | arrival _ (.admitted visit) => some visit
  | _ => none

def Occurrence.departed? : Occurrence → Option Visit
  | departure visit _ => some visit
  | _ => none

/-- The visits that have been admitted. -/
def admissions (history : List Occurrence) : List Visit :=
  history.filterMap Occurrence.admitted?

/-- The visits whose tasks have ended. -/
def departures (history : List Occurrence) : List Visit :=
  history.filterMap Occurrence.departed?

/-- The visits that are being served: those that have been admitted, and have not ended. -/
def running (history : List Occurrence) : List Visit :=
  (admissions history).filter fun visit => visit ∉ departures history

section

variable (history : List Occurrence) (peer : Network.SocketAddress) (visit : Visit)

@[simp]
theorem admissions_admitted :
    admissions (history ++ [.arrival peer (.admitted visit)]) = admissions history ++ [visit] := by
  unfold admissions
  rw [List.filterMap_append]
  rfl

@[simp]
theorem admissions_turnedAway (response : Response) :
    admissions (history ++ [.arrival peer (.turnedAway response)]) = admissions history := by
  unfold admissions
  rw [List.filterMap_append]
  exact List.append_nil _

@[simp]
theorem admissions_departure (ending : Visit.Ending) :
    admissions (history ++ [.departure visit ending]) = admissions history := by
  unfold admissions
  rw [List.filterMap_append]
  exact List.append_nil _

@[simp]
theorem departures_arrival (reception : Reception) :
    departures (history ++ [.arrival peer reception]) = departures history := by
  unfold departures
  rw [List.filterMap_append]
  exact List.append_nil _

@[simp]
theorem departures_departure (ending : Visit.Ending) :
    departures (history ++ [.departure visit ending]) = departures history ++ [visit] := by
  unfold departures
  rw [List.filterMap_append]
  rfl

/-- Whoever is turned away changes nothing about who is served. -/
theorem running_turnedAway (response : Response) :
    running (history ++ [.arrival peer (.turnedAway response)]) = running history := by
  unfold running
  rw [admissions_turnedAway, departures_arrival]

variable {history visit}

/-- A visit that is admitted is served from then on, unless it has ended before. -/
theorem running_admitted (fresh : visit ∉ departures history) :
    running (history ++ [.arrival peer (.admitted visit)]) = running history ++ [visit] := by
  have stays : [visit].filter (fun visit => visit ∉ departures history) = [visit] :=
    List.filter_eq_self.mpr (by simpa using fresh)
  unfold running
  rw [admissions_admitted, departures_arrival, List.filter_append, stays]

/-- A visit that ends is served no longer. -/
theorem running_departure (visit : Visit) (distinct : (admissions history).Nodup)
    (ending : Visit.Ending) :
    running (history ++ [.departure visit ending]) = (running history).erase visit := by
  have once : (running history).Nodup := distinct.filter _
  rw [once.erase_eq_filter]
  unfold running
  rw [admissions_departure, departures_departure, List.filter_filter]
  refine List.filter_congr fun other _ => ?_
  rw [Bool.eq_iff_iff]
  simp [and_comm]

end

/-! ## What arrivals and departures keep -/

/-- Every permit is free, or held by one visit that runs. -/
structure Sound (limit : Nat) (history : List Occurrence) (listener : Listener) : Prop where
  visits : listener.visits = running history
  conserved : listener.free + (running history).length = limit
  distinct : (admissions history).Nodup
  earlier : ∀ visit ∈ admissions history, visit.id < listener.nextId
  entered : ∀ visit ∈ departures history, visit ∈ admissions history

variable {limit : Nat} {history before : List Occurrence} {listener : Listener}

theorem sound_ofLimit (limit : Nat) : Sound limit [] (.ofLimit limit) where
  visits := rfl
  conserved := rfl
  distinct := List.nodup_nil
  earlier := nofun
  entered := nofun

theorem accept_of_full (full : listener.free = 0) (peer : Network.SocketAddress) :
    listener.accept peer = (.turnedAway atCapacity, listener, [⟨.warn, turnedAwayText peer⟩]) := by
  unfold accept
  rw [full]

theorem accept_of_free {free : Nat} (left : listener.free = free + 1)
    (peer : Network.SocketAddress) :
    listener.accept peer =
      (.admitted ⟨listener.nextId, peer⟩,
        ⟨free, listener.visits ++ [⟨listener.nextId, peer⟩], listener.nextId + 1⟩, []) := by
  unfold accept
  rw [left]

namespace Sound

/-- No visit has had the next identity. -/
theorem not_mem_admissions (sound : Sound limit history listener) (peer : Network.SocketAddress) :
    ⟨listener.nextId, peer⟩ ∉ admissions history :=
  fun member => Nat.lt_irrefl _ (sound.earlier _ member)

theorem accept (sound : Sound limit history listener) (peer : Network.SocketAddress) :
    Sound limit (history ++ [.arrival peer (listener.accept peer).1])
      (listener.accept peer).2.1 := by
  cases left : listener.free with
  | zero =>
      rw [accept_of_full left]
      constructor
      case visits => rw [running_turnedAway, sound.visits]
      case conserved => rw [running_turnedAway, sound.conserved]
      case distinct => simpa using sound.distinct
      case earlier => simpa using sound.earlier
      case entered => simpa using sound.entered
  | succ free =>
      have fresh := sound.not_mem_admissions peer
      have joined := running_admitted peer fun departed => fresh (sound.entered _ departed)
      rw [accept_of_free left]
      constructor
      case visits => rw [joined, sound.visits]
      case conserved =>
        have conserved := sound.conserved
        rw [joined, List.length_append, List.length_singleton]
        dsimp only
        omega
      case distinct =>
        rw [admissions_admitted, ← List.concat_eq_append]
        exact .concat fresh sound.distinct
      case earlier =>
        intro visit admitted
        rw [admissions_admitted, List.mem_append, List.mem_singleton] at admitted
        rcases admitted with earlier | rfl
        · exact Nat.lt_succ_of_lt (sound.earlier visit earlier)
        · exact Nat.lt_succ_self _
      case entered =>
        intro visit departed
        rw [departures_arrival] at departed
        rw [admissions_admitted]
        exact List.mem_append_left _ (sound.entered visit departed)

theorem complete (sound : Sound limit history listener) {visit : Visit}
    (runs : visit ∈ listener.visits) (ending : Visit.Ending) :
    Sound limit (history ++ [.departure visit ending]) (listener.complete visit ending).1 := by
  have left := running_departure visit sound.distinct ending
  rw [sound.visits] at runs
  constructor
  case visits => rw [left, ← sound.visits]; rfl
  case conserved =>
    have conserved := sound.conserved
    have served := List.length_pos_of_mem runs
    rw [left, List.length_erase_of_mem runs]
    change listener.free + 1 + _ = limit
    omega
  case distinct => simpa using sound.distinct
  case earlier => rw [admissions_departure]; exact sound.earlier
  case entered =>
    intro other departed
    rw [departures_departure, List.mem_append, List.mem_singleton] at departed
    rw [admissions_departure]
    rcases departed with earlier | rfl
    · exact sound.entered other earlier
    · exact (List.mem_filter.mp runs).1

theorem length_running_le (sound : Sound limit history listener) :
    (running history).length ≤ limit := by
  have conserved := sound.conserved
  omega

/-- No permit is left exactly when as many visits run as the limit allows. -/
theorem full_iff (sound : Sound limit history listener) :
    listener.free = 0 ↔ (running history).length = limit := by
  have conserved := sound.conserved
  omega

theorem turnedAway_iff (sound : Sound limit history listener) (peer : Network.SocketAddress) :
    (∃ response, (listener.accept peer).1 = .turnedAway response ∧ response.status.code = 503) ↔
      (running history).length = limit := by
  rw [← sound.full_iff]
  constructor
  · rintro ⟨response, turned, -⟩
    cases left : listener.free with
    | zero => rfl
    | succ free =>
        rw [accept_of_free left] at turned
        cases turned
  · intro full
    refine ⟨atCapacity, ?_, rfl⟩
    rw [accept_of_full full]

/-- Whoever is turned away takes no permit and starts no task. -/
theorem accept_full (sound : Sound limit history listener)
    (full : (running history).length = limit) (peer : Network.SocketAddress) :
    (listener.accept peer).2.1 = listener ∧
      running (history ++ [.arrival peer (listener.accept peer).1]) = running history := by
  rw [accept_of_full (sound.full_iff.mpr full)]
  exact ⟨rfl, running_turnedAway history peer atCapacity⟩

/-- Whoever is let in takes a permit and starts a task. -/
theorem accept_free (sound : Sound limit history listener)
    (left : (running history).length < limit) (peer : Network.SocketAddress) :
    ∃ visit, (listener.accept peer).1 = .admitted visit ∧
      (listener.accept peer).2.1.free + 1 = listener.free ∧
      running (history ++ [.arrival peer (listener.accept peer).1]) = running history ++ [visit] := by
  have conserved := sound.conserved
  obtain ⟨free, some⟩ := Nat.exists_eq_succ_of_ne_zero (show listener.free ≠ 0 by omega)
  have fresh := fun departed => sound.not_mem_admissions peer (sound.entered _ departed)
  rw [accept_of_free some]
  exact ⟨_, rfl, some.symm, running_admitted peer fresh⟩

end Sound

/-! ## Runs -/

namespace Ran

theorem sound (ran : Ran limit history listener) : Sound limit history listener := by
  induction ran with
  | opened _ => exact sound_ofLimit limit
  | accept _ peer inductionHypothesis => exact inductionHypothesis.accept peer
  | complete _ runs ending inductionHypothesis => exact inductionHypothesis.complete runs ending

theorem nodup_visits (ran : Ran limit history listener) : listener.visits.Nodup := by
  rw [ran.sound.visits]
  exact ran.sound.distinct.filter _

/-- What has happened up to some moment of a run is a run. -/
theorem exists_of_prefix (ran : Ran limit history listener) (part : before <+: history) :
    ∃ earlier, Ran limit before earlier := by
  induction ran with
  | opened countable =>
      cases List.prefix_nil.mp part
      exact ⟨_, .opened countable⟩
  | accept ran peer inductionHypothesis =>
      rcases List.prefix_concat_iff.mp part with rfl | part
      · exact ⟨_, ran.accept peer⟩
      · exact inductionHypothesis part
  | complete ran runs ending inductionHypothesis =>
      rcases List.prefix_concat_iff.mp part with rfl | part
      · exact ⟨_, ran.complete runs ending⟩
      · exact inductionHypothesis part

/-- Before the last arrival of a run there is a listener that has received it. -/
theorem exists_of_arrival {peer : Network.SocketAddress} {reception : Reception}
    (ran : Ran limit (before ++ [.arrival peer reception]) listener) :
    ∃ earlier, Ran limit before earlier ∧ reception = (earlier.accept peer).1 := by
  generalize whole : before ++ [.arrival peer reception] = history at ran
  cases ran with
  | opened _ => simp at whole
  | accept ran _ =>
      obtain ⟨rfl, same⟩ := List.append_inj' whole rfl
      cases same
      exact ⟨_, ran, rfl⟩
  | complete _ _ _ =>
      obtain ⟨-, same⟩ := List.append_inj' whole rfl
      cases same

/-- However connections come and tasks end, the permits that are free and the visits that are
served make up the limit, and no moment sees more visits served than that. A connection is turned away
exactly if as many are served when it comes, which changes neither count; any other takes a permit for
its task, and the task gives it back, whether it returns, fails or panics. -/
theorem permits_conserved (ran : Ran limit history listener) :
    listener.visits = running history ∧
    listener.free + (running history).length = limit ∧
    (∀ before, before <+: history → (running before).length ≤ limit) ∧
    (∀ before peer reception, before ++ [.arrival peer reception] <+: history →
      ((∃ response, reception = .turnedAway response ∧ response.status.code = 503) ↔
        (running before).length = limit)) ∧
    (∀ peer, (running history).length = limit →
      (listener.accept peer).2.1 = listener ∧
        running (history ++ [.arrival peer (listener.accept peer).1]) = running history) ∧
    (∀ peer, (running history).length < limit →
      ∃ visit, (listener.accept peer).1 = .admitted visit ∧
        (listener.accept peer).2.1.free + 1 = listener.free ∧
        running (history ++ [.arrival peer (listener.accept peer).1]) =
          running history ++ [visit]) ∧
    (∀ visit ∈ running history, ∀ ending,
      (listener.complete visit ending).1.free = listener.free + 1 ∧
        running (history ++ [.departure visit ending]) = (running history).erase visit) := by
  have sound := ran.sound
  refine ⟨sound.visits, sound.conserved, ?bounded, ?turnedAway, ?full, ?free, ?ended⟩
  case bounded =>
    intro before part
    obtain ⟨_, earlier⟩ := ran.exists_of_prefix part
    exact earlier.sound.length_running_le
  case turnedAway =>
    intro before peer reception part
    obtain ⟨_, later⟩ := ran.exists_of_prefix part
    obtain ⟨_, earlier, rfl⟩ := later.exists_of_arrival
    exact earlier.sound.turnedAway_iff peer
  case full => exact fun peer full => sound.accept_full full peer
  case free => exact fun peer left => sound.accept_free left peer
  case ended => exact fun visit _ ending => ⟨rfl, running_departure visit sound.distinct ending⟩

/-- A single permit, which goes from a visit that panics to the next one. -/
theorem permits_conserved_panicked :
    let peer : Network.SocketAddress := ⟨.v4 [127, 0, 0, 1], 0, 0⟩
    let history : List Occurrence :=
      [.arrival peer (.admitted ⟨0, peer⟩), .arrival peer (.turnedAway atCapacity),
        .departure ⟨0, peer⟩ (.error ⟨none⟩), .arrival peer (.admitted ⟨1, peer⟩)]
    Ran 1 history ⟨0, [⟨1, peer⟩], 2⟩ ∧ running history = [⟨1, peer⟩] ∧
      0 + (running history).length = 1 := by
  intro peer history
  have opened : Ran 1 [] (.ofLimit 1) := .opened (by decide)
  have ran : Ran 1 history ⟨0, [⟨1, peer⟩], 2⟩ :=
    (((opened.accept peer).accept peer).complete (List.mem_singleton_self (⟨0, peer⟩ : Visit))
      (.error ⟨none⟩)).accept peer
  have permits := ran.permits_conserved
  exact ⟨ran, permits.1.symm, permits.2.1⟩

end Ran

end Listener

namespace Scenario.Loopback

open Listener (Ran)

/-! ## Clients on the same machine -/

/-- The listener of clients has come about by arrivals and departures, and the visits that run are
those of the silent clients. -/
structure Accounted (limit : Nat) (loopback : Loopback) : Prop where
  ran : ∃ history, Ran limit history loopback.listener
  silent : loopback.listener.visits = loopback.silent.map Prod.fst

variable {limit : Nat} {loopback : Loopback}

theorem accounted_ofSession {session : Session}
    (countable : session.service.pipeline.config.maxConnections ≤ Service.maxPermits) :
    Accounted session.service.pipeline.config.maxConnections (.ofSession session) where
  ran := ⟨[], .opened countable⟩
  silent := rfl

@[simp]
theorem listener_complete (visit : Visit) (ending : Visit.Ending) :
    (loopback.complete visit ending).listener = (loopback.listener.complete visit ending).1 :=
  rfl

@[simp]
theorem silent_complete (visit : Visit) (ending : Visit.Ending) :
    (loopback.complete visit ending).silent = loopback.silent :=
  rfl

/-- Serving a visit ends it. -/
theorem exists_serveVisit (visit : Visit) (arrivals : List Arrival) :
    ∃ session ending, (loopback.serveVisit visit arrivals).2 =
      { loopback with session := session }.complete visit ending :=
  ⟨_, _, rfl⟩

/-- Ending some of the visits that run, each of them once. -/
theorem exists_ran_foldl_complete (due : List (Visit × Nat)) :
    ∀ loopback : Loopback, (∃ history, Ran limit history loopback.listener) →
      (due.map Prod.fst).Nodup → (∀ visit ∈ due, visit.1 ∈ loopback.listener.visits) →
      let after := due.foldl (fun loopback visit => loopback.complete visit.1 (.ok (.ok ()))) loopback
      (∃ history, Ran limit history after.listener) ∧
        after.listener.visits = loopback.listener.visits.diff (due.map Prod.fst) ∧
        after.silent = loopback.silent := by
  induction due with
  | nil => exact fun loopback ran _ _ => ⟨ran, rfl, rfl⟩
  | cons visit rest inductionHypothesis =>
      rintro loopback ⟨history, ran⟩ distinct run
      rw [List.map_cons, List.nodup_cons] at distinct
      have completed := ran.complete (run visit List.mem_cons_self) (.ok (.ok ()))
      have others : ∀ other ∈ rest, other.1 ∈ loopback.listener.visits.erase visit.1 := by
        intro other member
        refine (List.mem_erase_of_ne ?_).mpr (run other (List.mem_cons_of_mem visit member))
        intro same
        exact distinct.1 (same ▸ List.mem_map_of_mem member)
      obtain ⟨ends, visits, silent⟩ :=
        inductionHypothesis (loopback.complete visit.1 (.ok (.ok ()))) ⟨_, completed⟩ distinct.2 others
      refine ⟨ends, visits.trans ?_, silent⟩
      rw [List.map_cons, List.diff_cons]
      rfl

/-- Taking out what fulfils a condition leaves what does not. -/
theorem map_filter_not_eq_diff {α β : Type} [DecidableEq β] (key : α → β) (condition : α → Bool)
    (items : List α) (distinct : (items.map key).Nodup) :
    (items.filter (!condition ·)).map key =
      (items.map key).diff ((items.filter condition).map key) := by
  induction items with
  | nil => rfl
  | cons item rest inductionHypothesis =>
      rw [List.map_cons, List.nodup_cons] at distinct
      cases holds : condition item with
      | true =>
          rw [List.filter_cons_of_neg (by simp [holds]), List.filter_cons_of_pos holds, List.map_cons,
            List.map_cons, List.diff_cons, List.erase_cons_head, inductionHypothesis distinct.2]
      | false =>
          have other : key item ∉ (rest.filter condition).map key := by
            intro member
            obtain ⟨same, among, equal⟩ := List.mem_map.mp member
            exact distinct.1 (equal ▸ List.mem_map_of_mem (List.mem_of_mem_filter among))
          rw [List.filter_cons_of_pos (by simp [holds]), List.filter_cons_of_neg (by simp [holds]),
            List.map_cons, List.map_cons, List.cons_diff_of_not_mem other,
            inductionHypothesis distinct.2]

namespace Accounted

theorem reap (accounted : Accounted limit loopback) : Accounted limit loopback.reap := by
  obtain ⟨⟨history, ran⟩, silent⟩ := accounted
  have distinct := ran.nodup_visits
  rw [silent] at distinct
  have due : ((loopback.silent.filter loopback.isOver).map Prod.fst).Nodup :=
    distinct.sublist (List.filter_sublist.map Prod.fst)
  have run : ∀ visit ∈ loopback.silent.filter loopback.isOver, visit.1 ∈ loopback.listener.visits := by
    intro visit member
    rw [silent]
    exact List.mem_map_of_mem (List.mem_of_mem_filter member)
  obtain ⟨ends, visits, rest⟩ := exists_ran_foldl_complete _
    { loopback with silent := loopback.silent.filter (!loopback.isOver ·) } ⟨history, ran⟩ due run
  refine ⟨ends, visits.trans ?_⟩
  rw [show loopback.reap.silent = loopback.silent.filter (!loopback.isOver ·) from rest,
    map_filter_not_eq_diff Prod.fst loopback.isOver _ distinct]
  exact congrArg (List.diff · _) silent

/-- A visit that is served comes and goes; one that stays silent is counted. -/
theorem receive_admitted {visit : Visit} (ran : ∃ history, Ran limit history loopback.listener)
    (joined : loopback.listener.visits = loopback.silent.map Prod.fst ++ [visit]) (client : Client) :
    Accounted limit (loopback.receive client (.admitted visit)).2 := by
  obtain ⟨history, ran⟩ := ran
  have distinct := ran.nodup_visits
  rw [joined, ← List.concat_eq_append, List.nodup_concat] at distinct
  have runs : visit ∈ loopback.listener.visits := by
    rw [joined]
    exact List.mem_append_right _ List.mem_cons_self
  have served : ∀ arrivals, Accounted limit (loopback.serveVisit visit arrivals).2 := by
    intro arrivals
    obtain ⟨session, ending, ended⟩ := exists_serveVisit visit arrivals
    rw [ended]
    refine ⟨⟨_, ran.complete runs ending⟩, ?_⟩
    rw [listener_complete, silent_complete]
    change loopback.listener.visits.erase visit = loopback.silent.map Prod.fst
    rw [joined, List.erase_append_right _ distinct.1, List.erase_cons_head, List.append_nil]
  unfold receive
  cases client with
  | send bytes => exact served (Arrival.ofBytes bytes)
  | listen => exact served [.stall]
  | hold =>
      refine ⟨⟨history, ran⟩, joined.trans ?_⟩
      unfold holdVisit
      rw [List.map_append]
      rfl

theorem accept (accounted : Accounted limit loopback) (client : Client) :
    Accounted limit (loopback.accept client).2 := by
  obtain ⟨⟨history, ran⟩, silent⟩ := accounted.reap
  have accepted := ran.accept peer
  unfold Loopback.accept
  simp only
  cases left : loopback.reap.listener.free with
  | zero =>
      rw [Listener.accept_of_full left]
      exact ⟨⟨history, ran⟩, silent⟩
  | succ free =>
      rw [Listener.accept_of_free left] at accepted ⊢
      exact receive_admitted ⟨_, accepted⟩ (congrArg (· ++ [_]) silent) client

theorem acceptAll (accounted : Accounted limit loopback) (clients : List Client) :
    Accounted limit (loopback.acceptAll clients).2 := by
  induction clients generalizing loopback with
  | nil => exact accounted
  | cons client rest inductionHypothesis => exact inductionHypothesis (accounted.accept client)

end Accounted

/-- **Clients on the same machine use permits as all connections do.** However many come to a service
that has started, its listener has come about by arrivals and departures, and between two clients only
silent ones hold a permit. -/
theorem accounted_acceptAll {session : Session}
    (countable : session.service.pipeline.config.maxConnections ≤ Service.maxPermits)
    (clients : List Client) :
    Accounted session.service.pipeline.config.maxConnections
      ((ofSession session).acceptAll clients).2 :=
  (accounted_ofSession countable).acceptAll clients

end Scenario.Loopback

end HttpService
