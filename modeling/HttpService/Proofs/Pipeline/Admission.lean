import HttpService.Proofs.Pipeline.Identifying
import HttpService.Proofs.Wire.BodyFraming

/-!
Contract: which requests get past the guards.

Owns:
- header fields that are admissible, and that the guards admit these and no others;
- requests that have been validated: admissible fields, the recorded host, and the identifier
  that was given for the request;
- **nothing behind the guards is ever invoked with any other request**, and every admissible
  request gets there.

Does not own: what is behind the guards, and what an error is answered with.
-/

namespace HttpService

variable {World : Type}

namespace Guard

/-- Some names with one more, unless it is there in another casing. -/
def withName (names : List String) (name : String) : List String :=
  if names.any (fun known => foldCase known == foldCase name) then names else names ++ [name]

/-- Names are added as they are given, and each is there in some casing. -/
theorem foldl_withName_covers (further : List String) : ∀ names : List String,
    (∀ known ∈ further.foldl withName names, known ∈ names ++ further) ∧
      ∀ name ∈ names ++ further,
        ∃ known ∈ further.foldl withName names, foldCase known = foldCase name := by
  induction further with
  | nil =>
      intro names
      rw [List.append_nil]
      exact ⟨fun known member => member, fun name member => ⟨name, member, rfl⟩⟩
  | cons next rest inductionHypothesis =>
      intro names
      rw [List.foldl_cons, withName]
      split
      · rename_i covered
        obtain ⟨others, held⟩ := inductionHypothesis names
        obtain ⟨known, member, folded⟩ := List.any_eq_true.mp covered
        have same : foldCase known = foldCase next := beq_iff_eq.mp folded
        refine ⟨?_, ?_⟩
        · intro other inside
          rcases List.mem_append.mp (others other inside) with first | later
          · exact List.mem_append_left _ first
          · exact List.mem_append_right _ (List.mem_cons_of_mem next later)
        · intro name inside
          rcases List.mem_append.mp inside with first | later
          · exact held name (List.mem_append_left rest first)
          · rcases List.mem_cons.mp later with rfl | later
            · rw [← same]
              exact held known (List.mem_append_left rest member)
            · exact held name (List.mem_append_right names later)
      · have further := inductionHypothesis (names ++ [next])
        rw [List.append_assoc] at further
        exact further

/-- A header that may appear only once does so under every casing of its name, and no others
are added. -/
theorem singletonsWith_covers (extra : List String) :
    (∀ known ∈ singletonsWith extra, known ∈ singletonHeaders ++ extra) ∧
      ∀ name ∈ singletonHeaders ++ extra,
        ∃ known ∈ singletonsWith extra, foldCase known = foldCase name :=
  foldl_withName_covers extra singletonHeaders

end Guard

/-- Header fields that are to be let through, with their host: each header that may appear only
once has at most one value, and there is one host, which is allowed. -/
structure Admissible (config : Config World) (headers : Headers) (host : String) : Prop where
  single : ∀ name ∈ Guard.singletonHeaders ++ config.singletonHeaders,
    (headers.valuesOf name).length ≤ 1
  present : headers.valuesOf "Host" = [host]
  allowed : config.allowedHosts ≠ [] → Guard.hostAllowed config.allowedHosts host = true

/-- A request behind all guards: its header fields are admissible, their host is recorded, and
if there is a source of identifiers, it has what the source gave when it was asked about this
request. -/
structure Validated (config : Config World) (request : Request) : Prop where
  admissible : ∃ host, Admissible config request.headers host ∧ request.host = some host
  identified : ∀ source, config.idSource = some source →
    ∃ now world id, (source { request with id := none } now world).1 = .ok id ∧
      request.id = some id

/-- A middleware that goes on with validated requests as if it were not there. With others it may
do whatever it likes. -/
def LetsPass (config : Config World) (next : Middleware World) : Prop :=
  ∀ chain response request, Validated config request →
    next chain response request = chain.proceed response request

/-! ## Admissible fields -/

section

variable {config : Config World} {headers : Headers} {host : String}

theorem firstRepeatedHeader?_eq_none_iff (tidy : headers.Tidy) (extra : List String) :
    Guard.firstRepeatedHeader? (Guard.singletonsWith extra) headers = none ↔
      ∀ name ∈ Guard.singletonHeaders ++ extra, (headers.valuesOf name).length ≤ 1 := by
  obtain ⟨others, covered⟩ := Guard.singletonsWith_covers extra
  unfold Guard.firstRepeatedHeader?
  rw [List.find?_eq_none]
  simp only [decide_eq_true_eq, tidy.single_eq_repeated_iff, Nat.not_lt]
  constructor
  · intro each name member
    obtain ⟨known, inside, same⟩ := covered name member
    rw [← Headers.valuesOf_congr same]
    exact each known inside
  · intro each known inside
    exact each known (others known inside)

theorem checkHost_eq_ok_iff (tidy : headers.Tidy) (entries : List String) :
    (Guard.checkHost entries headers : Except (Fault World) String) = .ok host ↔
      headers.valuesOf "Host" = [host] ∧
        (entries ≠ [] → Guard.hostAllowed entries host = true) := by
  rw [← tidy.single_eq_value_iff]
  unfold Guard.checkHost
  cases headers.single "Host" with
  | absent => simp
  | repeated => simp
  | value found =>
      simp only [Single.value.injEq]
      by_cases allowed : entries = [] ∨ Guard.hostAllowed entries found = true
      · rw [if_pos allowed, Except.ok.injEq]
        constructor
        · rintro rfl
          exact ⟨rfl, fun some => allowed.resolve_left some⟩
        · exact fun both => both.1
      · rw [if_neg allowed]
        obtain ⟨some, refused⟩ := not_or.mp allowed
        constructor
        · nofun
        · rintro ⟨rfl, asked⟩
          exact absurd (asked some) refused

/-- The guards let the admissible fields pass, and no others. -/
theorem passes_iff_admissible (tidy : headers.Tidy) :
    Passes config headers host ↔ Admissible config headers host := by
  constructor
  · intro passes
    obtain ⟨present, allowed⟩ := (checkHost_eq_ok_iff tidy _).mp passes.allowed
    exact ⟨(firstRepeatedHeader?_eq_none_iff tidy _).mp passes.single, present, allowed⟩
  · intro admissible
    exact ⟨(firstRepeatedHeader?_eq_none_iff tidy _).mpr admissible.single,
      (checkHost_eq_ok_iff tidy _).mpr ⟨admissible.present, admissible.allowed⟩⟩

end

/-- Why the guards refuse header fields, if they do. -/
def refusal? (config : Config World) (headers : Headers) : Option (Fault World) :=
  match Guard.firstRepeatedHeader? (Guard.singletonsWith config.singletonHeaders) headers with
  | some name => some (Guard.refusal ("Header " ++ name ++ " cannot appear more than once"))
  | none =>
      match Guard.checkHost config.allowedHosts headers with
      | .error fault => some fault
      | .ok _ => none

theorem exists_passes_or_refusal (config : Config World) (headers : Headers) :
    (∃ host, Passes config headers host) ∨ ∃ fault, refusal? config headers = some fault := by
  unfold refusal?
  cases repeated : Guard.firstRepeatedHeader? (Guard.singletonsWith config.singletonHeaders)
      headers with
  | some name => exact .inr ⟨_, rfl⟩
  | none =>
      cases checked : Guard.checkHost config.allowedHosts headers with
      | ok host => exact .inl ⟨host, repeated, checked⟩
      | error fault => exact .inr ⟨fault, rfl⟩

namespace Pipeline

section

variable {pipeline : Pipeline World} {own : List (Middleware World)} {request : Request}

/-- What the guards refuse is over before anything behind them. -/
theorem chainJob_refused (stack : pipeline.middleware = guards pipeline.config ++ own)
    {fault : Fault World} (refused : refusal? pipeline.config request.headers = some fault)
    (endpoint : Option (Endpoint World)) :
    pipeline.chainJob endpoint request =
      .done ⟨.error fault, .forMethod request.method, request⟩ := by
  unfold chainJob chain
  rw [stack]
  show Guard.singletons _ _ _ request = _
  unfold Guard.singletons
  unfold refusal? at refused
  cases repeated : Guard.firstRepeatedHeader?
      (Guard.singletonsWith pipeline.config.singletonHeaders) request.headers with
  | some name =>
      rw [repeated] at refused
      cases refused
      rfl
  | none =>
      rw [repeated] at refused
      simp only at refused ⊢
      show Guard.host _ _ _ request = _
      unfold Guard.host
      cases checked : Guard.checkHost pipeline.config.allowedHosts request.headers with
      | ok host =>
          rw [checked] at refused
          cases refused
      | error other =>
          rw [checked] at refused
          cases refused
          rfl

end

end Pipeline

/-! ## Requests that get past the guards -/

section

variable {config : Config World} {request : Request} {host : String}

theorem Admissible.validated (admissible : Admissible config request.headers host)
    (unnamed : config.idSource = none) : Validated config (Pipeline.asked request host) where
  admissible := ⟨host, admissible, rfl⟩
  identified := by
    intro source configured
    rw [unnamed] at configured
    cases configured

theorem Admissible.validated_identified (admissible : Admissible config request.headers host)
    {source : Guard.IdSource World} (configured : config.idSource = some source)
    (unnamed : request.id = none) {now : Nat} {world : World} {id : String}
    (given : (source (Pipeline.asked request host) now world).1 = .ok id) :
    Validated config { Pipeline.asked request host with id := some id } where
  admissible := ⟨host, admissible, rfl⟩
  identified := by
    intro other known
    rw [configured] at known
    cases known
    -- Without its identifier the request is the one that the source was asked about.
    have asked : { Pipeline.asked request host with id := none } = Pipeline.asked request host := by
      unfold Pipeline.asked
      rw [← unnamed]
    exact ⟨now, world, id, asked ▸ given, rfl⟩

end

namespace Pipeline

/-- The service with one more middleware directly behind the guards. -/
def watched (pipeline : Pipeline World) (checkpoint : Middleware World)
    (own : List (Middleware World)) : Pipeline World :=
  { pipeline with middleware := guards pipeline.config ++ checkpoint :: own }

section

variable {pipeline : Pipeline World} {own : List (Middleware World)}
  {checkpoint : Middleware World}

/-- The chain of a request is the same with a checkpoint that lets validated requests pass. -/
theorem chainJob_watched (stack : pipeline.middleware = guards pipeline.config ++ own)
    (passes : LetsPass pipeline.config checkpoint) {request : Request}
    (tidy : request.headers.Tidy) (unnamed : request.id = none)
    (endpoint : Option (Endpoint World)) :
    (pipeline.watched checkpoint own).chainJob endpoint request =
      pipeline.chainJob endpoint request := by
  have watchedStack : (pipeline.watched checkpoint own).middleware =
      guards (pipeline.watched checkpoint own).config ++ checkpoint :: own := rfl
  rcases exists_passes_or_refusal pipeline.config request.headers with
    ⟨host, admitted⟩ | ⟨fault, refused⟩
  · have admissible := (passes_iff_admissible tidy).mp admitted
    cases asked : pipeline.config.idSource with
    | none =>
        rw [chainJob_passes stack asked admitted,
          chainJob_passes watchedStack asked admitted]
        exact passes _ _ _ (admissible.validated asked)
    | some source =>
        rw [chainJob_identified stack asked admitted,
          chainJob_identified watchedStack asked admitted]
        refine Job.ofAction_bind_congr ?_
        intro now world id given
        exact passes _ _ _ (admissible.validated_identified asked unnamed given)
  · rw [chainJob_refused stack refused, chainJob_refused watchedStack refused]

/-- If the chains of a request have the same to do, the request is answered alike. -/
theorem answer_watched {request : Request} {peer : Option Network.SocketAddress}
    {engine : Engine World}
    (same : ∀ endpoint routed,
      pipeline.directed (pipeline.opened request peer engine.clock) = .ok (endpoint, routed) →
        (pipeline.watched checkpoint own).chainJob endpoint routed =
          pipeline.chainJob endpoint routed) :
    (pipeline.watched checkpoint own).answer request peer engine =
      pipeline.answer request peer engine := by
  have ran : (pipeline.watched checkpoint own).run (.forMethod request.method)
        (pipeline.opened request peer engine.clock) engine =
      pipeline.run (.forMethod request.method)
        (pipeline.opened request peer engine.clock) engine := by
    cases directed : pipeline.directed (pipeline.opened request peer engine.clock) with
    | error misled =>
        obtain ⟨error, left⟩ := misled
        have watchedDirected : (pipeline.watched checkpoint own).directed
            (pipeline.opened request peer engine.clock) = .error (error, left) := directed
        rw [run_misdirected directed, run_misdirected watchedDirected]
        rfl
    | ok led =>
        obtain ⟨endpoint, routed⟩ := led
        have watchedDirected : (pipeline.watched checkpoint own).directed
            (pipeline.opened request peer engine.clock) = .ok (endpoint, routed) := directed
        have begun := same endpoint routed directed
        unfold chainJob at begun
        rw [(of_directed directed).1] at begun
        have begun : ((pipeline.watched checkpoint own).chain endpoint).proceed
              (.forMethod request.method) routed =
            (pipeline.chain endpoint).proceed (.forMethod request.method) routed := begun
        rw [run_directed directed, run_directed watchedDirected, race_eq, race_eq, begun]
        rfl
  have prepared : (pipeline.watched checkpoint own).prepare request peer engine =
      pipeline.prepare request peer engine := by
    rcases Decidable.em (pipeline.HasDeadline engine.clock) with timely | untimely
    · have watchedTimely : (pipeline.watched checkpoint own).HasDeadline engine.clock := timely
      have opens : (pipeline.watched checkpoint own).opened request peer engine.clock =
          pipeline.opened request peer engine.clock := rfl
      rw [prepare_of_hasDeadline timely, prepare_of_hasDeadline watchedTimely, opens, ran]
      rfl
    · have watchedUntimely : ¬ (pipeline.watched checkpoint own).HasDeadline engine.clock :=
        untimely
      rw [prepare_of_not_hasDeadline untimely, prepare_of_not_hasDeadline watchedUntimely]
  unfold answer
  rw [prepared]
  rfl

/-- The request that a chain is given has the header fields that were read, and no identifier. -/
theorem given_of_directed {raw : Bytes} {maxBody start : Nat} {request routed : Request}
    {peer : Option Network.SocketAddress} {endpoint : Option (Endpoint World)}
    (read : Wire.readRequest raw maxBody = .ok request)
    (directed : pipeline.directed (pipeline.opened request peer start) = .ok (endpoint, routed)) :
    routed.headers = request.headers ∧ routed.headers.Tidy ∧ routed.id = none := by
  obtain ⟨method, target, headers, body, rfl, built⟩ := Wire.made_of_readRequest read
  obtain ⟨rest, rfl, _⟩ := retargeted_of_directed directed
  exact ⟨rfl, built.tidy, rfl⟩

/-- No request that has been read shows whether there is a checkpoint. -/
theorem handle_watched (stack : pipeline.middleware = guards pipeline.config ++ own)
    (passes : LetsPass pipeline.config checkpoint) (raw : Bytes)
    (peer : Option Network.SocketAddress) (engine : Engine World) :
    (pipeline.watched checkpoint own).handle raw peer engine =
      pipeline.handle raw peer engine := by
  cases read : Wire.readRequest raw pipeline.config.maxBody with
  | error error =>
      have watchedRead :
          Wire.readRequest raw (pipeline.watched checkpoint own).config.maxBody = .error error :=
        read
      unfold handle
      rw [read, watchedRead]
  | ok request =>
      have answered : (pipeline.watched checkpoint own).handle raw peer engine =
          (pipeline.watched checkpoint own).answer request peer engine := handle_parsed read
      rw [handle_parsed read, answered]
      refine answer_watched ?_
      intro endpoint routed directed
      obtain ⟨_, tidy, unnamed⟩ := given_of_directed read directed
      exact chainJob_watched stack passes tidy unnamed endpoint

/-- What the guards make of a request on its way: with admissible fields what stands behind them
is invoked with the host recorded, and with the identifier that the source gives at that moment,
if there is a source. All else is refused, and nothing of what stands behind is left to do. -/
structure Screened (pipeline : Pipeline World) (own : List (Middleware World))
    (endpoint : Option (Endpoint World)) (routed : Request) : Prop where
  unnamed : ∀ host, Admissible pipeline.config routed.headers host →
    pipeline.config.idSource = none →
      pipeline.chainJob endpoint routed =
        (pipeline.inner own endpoint).proceed (.forMethod routed.method) (asked routed host)
  named : ∀ host, Admissible pipeline.config routed.headers host →
    ∀ source, pipeline.config.idSource = some source →
      pipeline.chainJob endpoint routed =
        (Job.ofAction (source (asked routed host))).bind fun id =>
          pipeline.identified own endpoint routed host id
  refused : (∀ host, ¬ Admissible pipeline.config routed.headers host) →
    ∃ fault, pipeline.chainJob endpoint routed =
      .done ⟨.error fault, .forMethod routed.method, routed⟩

theorem screened (stack : pipeline.middleware = guards pipeline.config ++ own) {routed : Request}
    (tidy : routed.headers.Tidy) (endpoint : Option (Endpoint World)) :
    pipeline.Screened own endpoint routed where
  unnamed := fun _ admissible asked =>
    chainJob_passes stack asked ((passes_iff_admissible tidy).mpr admissible) endpoint
  named := fun _ admissible _ asked =>
    chainJob_identified stack asked ((passes_iff_admissible tidy).mpr admissible) endpoint
  refused := by
    intro inadmissible
    rcases exists_passes_or_refusal pipeline.config routed.headers with
      ⟨host, passes⟩ | ⟨fault, refused⟩
    · exact absurd ((passes_iff_admissible tidy).mp passes) (inadmissible host)
    · exact ⟨fault, chainJob_refused stack refused endpoint⟩

/-- **What gets past the guards.** Whatever the octets of a request are, a middleware directly
behind the guards that lets validated requests pass is never noticed, though it may do with
others what it likes: nothing that stands there is ever invoked with one that is not validated.
In terms of a single request that has been read and led to its chain: with admissible header
fields, what stands behind the guards is invoked with it, and with any others its chain is over
with an error. -/
theorem handle_admits (stack : pipeline.middleware = guards pipeline.config ++ own) :
    (∀ checkpoint : Middleware World, LetsPass pipeline.config checkpoint →
      ∀ raw peer engine, (pipeline.watched checkpoint own).handle raw peer engine =
        pipeline.handle raw peer engine) ∧
      ∀ raw request peer start endpoint routed,
        Wire.readRequest raw pipeline.config.maxBody = .ok request →
          pipeline.directed (pipeline.opened request peer start) = .ok (endpoint, routed) →
            routed.headers = request.headers ∧ pipeline.Screened own endpoint routed := by
  refine ⟨fun checkpoint passes => handle_watched stack passes, ?_⟩
  intro raw request peer start endpoint routed read directed
  obtain ⟨same, tidy, _⟩ := given_of_directed read directed
  exact ⟨same, screened stack tidy endpoint⟩

end

/-! ## A checkpoint -/

/-- A middleware that panics at requests without a recorded host. -/
def wary : Middleware Unit :=
  fun chain response request =>
    if request.host = none then .panic ⟨some "unchecked"⟩ else chain.proceed response request

theorem letsPass_wary (config : Config Unit) : LetsPass config wary := by
  intro chain response request validated
  obtain ⟨host, _, recorded⟩ := validated.admissible
  unfold wary
  rw [if_neg (by simp [recorded])]

/-- The octets of a request with two hosts. -/
def twoHostsBytes : Bytes :=
  Utf8.encode "GET /a HTTP/1.1\r\nHost: x\r\nhost: y\r\n\r\n"

/-- That request. -/
def twoHostsRequest : Request :=
  .make .get ⟨["a"], none, "/a", false, [], .empty⟩ ⟨[⟨"Host", "host", #["x", "y"]⟩]⟩ []

theorem handle_admits_wary :
    (∀ raw, ((naming defaultIdHeader []).watched wary []).handle raw none (.start ()) =
        (naming defaultIdHeader []).handle raw none (.start ())) ∧
      Wire.readRequest namedBytes (naming defaultIdHeader []).config.maxBody = .ok lostRequest ∧
      ((naming defaultIdHeader []).chainJob none namedRequest =
        (Job.ofAction (.pure "r1")).bind fun id =>
          (naming defaultIdHeader []).identified [] none namedRequest "x" id) ∧
      Wire.readRequest twoHostsBytes (naming defaultIdHeader []).config.maxBody =
        .ok twoHostsRequest ∧
      ∃ fault, (naming defaultIdHeader []).chainJob none
          ((naming defaultIdHeader []).opened twoHostsRequest none 0) =
        .done ⟨.error fault, .forMethod .get,
          (naming defaultIdHeader []).opened twoHostsRequest none 0⟩ := by
  have parsed := parsed_namedBytes defaultIdHeader []
  have twice : Wire.readRequest twoHostsBytes (naming defaultIdHeader []).config.maxBody =
      .ok twoHostsRequest := by
    show Wire.readRequest twoHostsBytes Wire.defaultMaxBody = _
    decide +kernel
  have admits := (naming defaultIdHeader []).handle_admits rfl
  have led := (admits.2 _ _ none 0 _ _ parsed (directed_naming defaultIdHeader [])).2
  have astray := (admits.2 _ _ none 0 none _ twice rfl).2
  refine ⟨fun raw => admits.1 wary (letsPass_wary _) raw none (.start ()), parsed, ?_, twice, ?_⟩
  · obtain ⟨_, _, headers, _, made, built⟩ := Wire.made_of_readRequest parsed
    have tidy : lostRequest.headers.Tidy := made ▸ built.tidy
    exact led.named "x" ((passes_iff_admissible tidy).mp (passes_naming defaultIdHeader)) _ rfl
  · refine astray.refused ?_
    intro host admissible
    have values : twoHostsRequest.headers.valuesOf "Host" = ["x", "y"] := by decide +kernel
    cases values.symm.trans admissible.present

end Pipeline

end HttpService
