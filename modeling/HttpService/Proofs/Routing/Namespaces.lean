import HttpService.Proofs.Routing.Extending
import HttpService.Proofs.Routing.Registering

/-!
Contract: routes behind a namespace of literal segments.

Owns:
- patterns behind a static one: their keys, their rank, what they cover and what they capture;
- registrations behind a static namespace, which are answered as those without it;
- **a static namespace is transparent**: behind it a router finds what the router without it finds,
  and in front of it nothing.

Does not own: namespaces that capture.
-/

namespace HttpService.Routing

variable {α : Type}

/-- The text of a literal segment. -/
def Segment.text? : Segment → Option String
  | literal text => some text
  | dynamic .. => none

namespace Pattern

/-- The texts of the literal segments. -/
def texts (pattern : Pattern) : List String :=
  pattern.segments.filterMap Segment.text?

/-- A pattern behind another one. -/
def behind (pattern lead : Pattern) : Pattern :=
  ⟨lead.segments ++ pattern.segments⟩

theorem root_behind (lead : Pattern) : root.behind lead = lead := by
  unfold behind root
  rw [List.append_nil]

theorem behind_behind (pattern base lead : Pattern) :
    pattern.behind (base.behind lead) = (pattern.behind base).behind lead := by
  unfold behind
  rw [List.append_assoc]

theorem keys_behind (pattern lead : Pattern) : (pattern.behind lead).keys = lead.keys ++ pattern.keys :=
  List.map_append

section

variable {lead : Pattern}

theorem segments_of_isStatic (static : lead.isStatic = true) :
    lead.segments = lead.texts.map Segment.literal := by
  have literals := List.all_eq_true.mp static
  unfold texts
  generalize lead.segments = segments at literals ⊢
  induction segments with
  | nil => rfl
  | cons segment rest inductionHypothesis =>
      have further := inductionHypothesis fun other member =>
        literals other (List.mem_cons_of_mem segment member)
      cases segment with
      | literal text => exact congrArg (Segment.literal text :: ·) further
      | dynamic name opening closing => cases literals _ List.mem_cons_self

theorem keys_of_isStatic (static : lead.isStatic = true) :
    lead.keys = lead.texts.map Key.exact := by
  unfold keys
  conv_lhs => rw [segments_of_isStatic static]
  rw [List.map_map]
  rfl

/-! ## Patterns behind a static one -/

/-- A static pattern has no captures of its own. -/
theorem captureNames_behind (static : lead.isStatic = true) (pattern : Pattern) :
    (pattern.behind lead).captureNames = pattern.captureNames := by
  have uncaptured : lead.segments.filterMap Segment.capture? = [] := by
    rw [List.filterMap_eq_nil_iff]
    intro segment member
    have literal := List.all_eq_true.mp static segment member
    cases segment with
    | literal text => rfl
    | dynamic name opening closing => cases literal
  unfold captureNames behind
  rw [List.filterMap_append, uncaptured, List.nil_append]

theorem acceptAll_exact (keys : List Key) : ∀ {texts path : List String},
    Key.acceptAll (texts.map Key.exact ++ keys) path = true ↔
      ∃ rest, path = texts ++ rest ∧ Key.acceptAll keys rest = true
  | [], path => by simp
  | text :: texts, [] => by simp [Key.acceptAll]
  | text :: texts, segment :: path => by
      have further := @acceptAll_exact keys texts path
      simp only [List.map_cons, List.cons_append, Key.acceptAll, Key.accepts, Bool.and_eq_true,
        beq_iff_eq, further, List.cons.injEq]
      constructor
      · rintro ⟨rfl, rest, rfl, accepted⟩
        exact ⟨rest, ⟨rfl, rfl⟩, accepted⟩
      · rintro ⟨rest, ⟨rfl, rfl⟩, accepted⟩
        exact ⟨rfl, rest, rfl, accepted⟩

theorem covers_behind_iff (static : lead.isStatic = true) {pattern : Pattern}
    {path : List String} :
    (pattern.behind lead).covers path = true ↔
      ∃ rest, path = lead.texts ++ rest ∧ pattern.covers rest = true := by
  unfold covers
  rw [keys_behind, keys_of_isStatic static]
  exact acceptAll_exact pattern.keys

theorem covers_behind (static : lead.isStatic = true) (pattern : Pattern) (rest : List String) :
    (pattern.behind lead).covers (lead.texts ++ rest) = pattern.covers rest := by
  rw [Bool.eq_iff_iff, covers_behind_iff static]
  simp

theorem capture_literals (texts : List String) (segments : List Segment) (rest : List String) :
    Segment.capture (texts.map Segment.literal ++ segments) (texts ++ rest) =
      Segment.capture segments rest := by
  induction texts with
  | nil => rfl
  | cons text texts inductionHypothesis => exact inductionHypothesis

theorem capture_behind (static : lead.isStatic = true) (pattern : Pattern) (rest : List String) :
    Segment.capture (pattern.behind lead).segments (lead.texts ++ rest) =
      Segment.capture pattern.segments rest := by
  unfold behind
  rw [segments_of_isStatic static]
  exact capture_literals lead.texts pattern.segments rest

theorem isStatic_behind (static : lead.isStatic = true) (pattern : Pattern) :
    (pattern.behind lead).isStatic = pattern.isStatic := by
  unfold isStatic at static ⊢
  unfold behind
  rw [List.all_append, static, Bool.true_and]

theorem dynamicCount_behind (static : lead.isStatic = true) (pattern : Pattern) :
    (pattern.behind lead).dynamicCount = pattern.dynamicCount := by
  have none := (isStatic_iff lead).mp static
  unfold dynamicCount at none ⊢
  unfold behind
  rw [List.countP_append, none, Nat.zero_add]

theorem constraintCount_behind (static : lead.isStatic = true) (pattern : Pattern) :
    (pattern.behind lead).constraintCount = pattern.constraintCount := by
  unfold constraintCount behind
  rw [segments_of_isStatic static, List.foldr_append]
  induction lead.texts with
  | nil => rfl
  | cons text texts inductionHypothesis =>
      rw [List.map_cons, List.foldr_cons, inductionHypothesis]
      exact Nat.zero_add _

theorem firstDynamic_behind (static : lead.isStatic = true) (pattern : Pattern) :
    (pattern.behind lead).firstDynamic = pattern.firstDynamic + lead.segments.length := by
  have none := firstDynamic_of_isStatic static
  unfold firstDynamic at none ⊢
  unfold behind
  rw [List.findIdx_append, none, if_neg (Nat.lt_irrefl _)]

end

end Pattern

namespace Registration

/-- A registration behind a pattern. -/
def behind (lead : Pattern) (registration : Registration α) : Registration α :=
  { registration with pattern := registration.pattern.behind lead }

section

variable {lead : Pattern}

/-- All ranks are shifted alike. -/
theorem rank_behind_lt_iff (static : lead.isStatic = true) (left right : Registration α) :
    (left.behind lead).rank < (right.behind lead).rank ↔ left.rank < right.rank := by
  unfold rank behind
  simp only [Pattern.isStatic_behind static, Pattern.dynamicCount_behind static,
    Pattern.constraintCount_behind static, Pattern.firstDynamic_behind static,
    Prod.Lex.toLex_lt_toLex, OrderDual.toDual_lt_toDual, OrderDual.toDual_inj,
    Nat.add_lt_add_iff_right, Nat.add_right_cancel_iff]

theorem keys_behind_eq_iff (lead : Pattern) {left right : Pattern} :
    (left.behind lead).keys = (right.behind lead).keys ↔ left.keys = right.keys := by
  rw [Pattern.keys_behind, Pattern.keys_behind, List.append_cancel_left_eq]

theorem register_behind (lead : Pattern) (held : List (Registration α)) (pattern : Pattern)
    (value : α) :
    register (held.map (behind lead)) (pattern.behind lead) value =
      (register held pattern value).map (behind lead) := by
  have known : (held.map (behind lead)).any (·.pattern.keys = (pattern.behind lead).keys) =
      held.any (·.pattern.keys = pattern.keys) := by
    rw [List.any_map]
    congr 1
    funext registration
    exact decide_eq_decide.mpr (keys_behind_eq_iff lead)
  unfold register
  rw [known]
  split
  · rw [List.map_map, List.map_map]
    refine List.map_congr_left fun registration _ => ?_
    unfold renew behind Function.comp
    simp only [keys_behind_eq_iff]
    split
    · rfl
    · rfl
  · rw [List.map_append, List.length_map]
    rfl

/-- What a scan of the registrations finds, it finds behind the namespace if they are behind it. -/
theorem scan_behind (static : lead.isStatic = true) (held : List (Registration α))
    (rest : List String) :
    scan (held.map (behind lead)) (lead.texts ++ rest) =
      (scan held rest).map fun found => { found with pattern := found.pattern.behind lead } := by
  have sameTest : (fun registration : Registration α =>
      registration.pattern.covers (lead.texts ++ rest)) ∘ behind lead =
        fun registration => registration.pattern.covers rest :=
    funext fun registration => Pattern.covers_behind static registration.pattern rest
  unfold scan
  rw [List.filter_map, sameTest, argmin_map_rank (rank_behind_lt_iff static), Option.map_map,
    Option.map_map]
  congr 1
  funext best
  have captured := Pattern.capture_behind static best.pattern rest
  exact congrArg (Match.mk best.value (best.pattern.behind lead)) captured

end

end Registration

/-! ## Insertions behind a static pattern -/

/-- An insertion behind a pattern. -/
def placed (lead : Pattern) (inserted : Pattern × α) : Pattern × α :=
  (inserted.1.behind lead, inserted.2)

theorem Registration.ofInsertions_placed (lead : Pattern) (insertions : List (Pattern × α)) :
    Registration.ofInsertions (insertions.map (placed lead)) =
      (Registration.ofInsertions insertions).map (behind lead) := by
  induction insertions using List.reverseRecOn with
  | nil => rfl
  | append_singleton earlier inserted inductionHypothesis =>
      obtain ⟨pattern, value⟩ := inserted
      rw [ofInsertions_concat, ← register_behind, ← inductionHypothesis, List.map_append,
        List.map_singleton]
      exact ofInsertions_concat _ _ _

theorem latest?_placed (lead : Pattern) (insertions : List (Pattern × α)) (pattern : Pattern) :
    latest? (insertions.map (placed lead)) (pattern.behind lead).keys =
      (latest? insertions pattern.keys).map (placed lead) := by
  unfold latest?
  rw [← List.map_reverse, List.find?_map]
  congr 2
  funext inserted
  exact decide_eq_decide.mpr (Registration.keys_behind_eq_iff lead)

namespace Trie

/-- An insertion replaces behind a pattern what it replaces without it. -/
theorem fst_insert_placed (lead : Pattern) (insertions : List (Pattern × α)) (pattern : Pattern)
    (value : α) :
    ((ofInsertions (insertions.map (placed lead))).insert (pattern.behind lead) value).1 =
      ((ofInsertions insertions).insert pattern value).1 := by
  have answer : ∀ (insertions : List (Pattern × α)) (pattern : Pattern),
      ((ofInsertions insertions).insert pattern value).1 =
        (latest? insertions pattern.keys).map (·.2) := by
    intro insertions pattern
    rw [fst_insert, ← entry?_ofInsertions, Option.map_map]
    rfl
  rw [answer, answer, latest?_placed, Option.map_map]
  rfl

section

variable {lead : Pattern}

theorem find?_placed (static : lead.isStatic = true) (insertions : List (Pattern × α))
    (rest : List String) :
    (ofInsertions (insertions.map (placed lead))).find? (lead.texts ++ rest) =
      ((ofInsertions insertions).find? rest).map fun found =>
        { found with pattern := found.pattern.behind lead } := by
  rw [(holds_ofInsertions _).find?_eq (Registration.separate_ofInsertions _),
    (holds_ofInsertions _).find?_eq (Registration.separate_ofInsertions _),
    Registration.ofInsertions_placed]
  exact Registration.scan_behind static _ rest

/-- Nothing is found in front of the pattern. -/
theorem find?_placed_eq_none (static : lead.isStatic = true) (insertions : List (Pattern × α))
    {path : List String} (apart : ¬ lead.texts <+: path) :
    (ofInsertions (insertions.map (placed lead))).find? path = none := by
  rw [Option.eq_none_iff_forall_ne_some]
  intro found search
  obtain ⟨inserted, covered⟩ := mem_insertions_of_find? search
  obtain ⟨original, _, same⟩ := List.mem_map.mp inserted
  have pattern : original.1.behind lead = found.pattern := congrArg Prod.fst same
  rw [← pattern, Pattern.covers_behind_iff static] at covered
  obtain ⟨rest, rfl, _⟩ := covered
  exact apart (List.prefix_append _ _)

end

end Trie

/-! ## Registrations behind a static namespace -/

/-- An error without the pattern that it shows where that pattern has its namespace in front. -/
def PatternError.unplaced : PatternError → PatternError
  | invalidSegment segment pattern => invalidSegment segment pattern
  | duplicateCapture name _ => duplicateCapture name ""

namespace Router

section

variable {lead : Pattern}

/-- A route resolves behind the namespace as it does without it. -/
theorem resolve_behind (static : lead.isStatic = true) (base : Pattern) (raw : String) :
    (∃ error other, resolve base raw = .error error ∧
        resolve (base.behind lead) raw = .error other ∧ other.unplaced = error.unplaced) ∨
      ∃ resolved, resolve base raw = .ok resolved ∧
        resolve (base.behind lead) raw = .ok (resolved.behind lead) := by
  unfold resolve
  cases Pattern.ofRoute raw with
  | error error => exact .inl ⟨error, error, rfl, rfl, rfl⟩
  | ok written =>
      have names : (written.behind (base.behind lead)).captureNames =
          (written.behind base).captureNames := by
        rw [Pattern.behind_behind, Pattern.captureNames_behind static]
      show (∃ error other, (written.behind base).checkCaptures _ = _ ∧
          (written.behind (base.behind lead)).checkCaptures _ = _ ∧ _) ∨
        ∃ resolved, (written.behind base).checkCaptures _ = _ ∧
          (written.behind (base.behind lead)).checkCaptures _ = _
      unfold Pattern.checkCaptures
      rw [names]
      cases firstRepeated? [] (written.behind base).captureNames with
      | some name => exact .inl ⟨_, _, rfl, rfl, rfl⟩
      | none => exact .inr ⟨_, rfl, by rw [Pattern.behind_behind]⟩

/-- A router behind a namespace that holds what the other one holds without it. -/
structure Shifted (lead : Pattern) (inside outside : Router α) : Prop where
  base : inside.base = lead
  root : outside.base = .root
  routes : ∃ insertions : List (Pattern × α), outside.routes = Trie.ofInsertions insertions ∧
    inside.routes = Trie.ofInsertions (insertions.map (placed lead))

variable {inside outside : Router α}

theorem Shifted.insert (shifted : Shifted lead inside outside) (pattern : Pattern) (value : α) :
    (inside.routes.insert (pattern.behind lead) value).1 =
        (outside.routes.insert pattern value).1 ∧
      Shifted lead (inside.insert (pattern.behind lead) value) (outside.insert pattern value) := by
  obtain ⟨insertions, plain, moved⟩ := shifted.routes
  refine ⟨?_, shifted.base, shifted.root, insertions ++ [(pattern, value)], ?_, ?_⟩
  · rw [plain, moved]
    exact Trie.fst_insert_placed lead insertions pattern value
  · rw [Trie.ofInsertions_concat, ← plain]
    rfl
  · rw [List.map_append, List.map_singleton]
    show (inside.routes.insert _ _).2 = Trie.ofInsertions (_ ++ [(pattern.behind lead, value)])
    rw [Trie.ofInsertions_concat, ← moved]

theorem Shifted.addEach (static : lead.isStatic = true) (base : Pattern)
    (routes : List (String × α)) (shifted : Shifted lead inside outside) :
    (Router.addEach (base.behind lead) inside routes).1.map PatternError.unplaced =
        (Router.addEach base outside routes).1.map PatternError.unplaced ∧
      Shifted lead (Router.addEach (base.behind lead) inside routes).2
        (Router.addEach base outside routes).2 := by
  induction routes generalizing inside outside with
  | nil => exact ⟨rfl, shifted⟩
  | cons route rest inductionHypothesis =>
      obtain ⟨raw, value⟩ := route
      rw [addEach_cons, addEach_cons]
      rcases resolve_behind static base raw with
        ⟨error, other, plain, moved, same⟩ | ⟨resolved, plain, moved⟩
      · rw [plain, moved]
        exact ⟨congrArg some same, shifted⟩
      · rw [plain, moved]
        exact inductionHypothesis (shifted.insert resolved value).2

theorem mapError_elim {β : Type} (f : PatternError → PatternError) (error : Option PatternError)
    (value : β) :
    (error.elim (.ok value) .error : Except PatternError β).mapError f =
      (error.map f).elim (.ok value) .error := by
  cases error <;> rfl

/-- **A registration is answered alike, and keeps the routers alike.** -/
theorem Shifted.call (static : lead.isStatic = true) (shifted : Shifted lead inside outside)
    (next : Call α) :
    (inside.call next).1.mapError PatternError.unplaced =
        (outside.call next).1.mapError PatternError.unplaced ∧
      Shifted lead (inside.call next).2 (outside.call next).2 := by
  have first := fun raw => resolve_behind static .root raw
  rw [Pattern.root_behind] at first
  cases next with
  | route raw value =>
      rw [call_route, call_route, shifted.base, shifted.root]
      rcases first raw with ⟨error, other, plain, moved, same⟩ | ⟨resolved, plain, moved⟩
      · rw [plain, moved]
        exact ⟨congrArg Except.error same, shifted⟩
      · rw [plain, moved]
        obtain ⟨replaced, kept⟩ := shifted.insert resolved value
        exact ⟨congrArg Except.ok replaced, kept⟩
  | routesUnder base routes =>
      have added : (inside.addUnder base routes).1.map PatternError.unplaced =
            (outside.addUnder base routes).1.map PatternError.unplaced ∧
          Shifted lead (inside.addUnder base routes).2 (outside.addUnder base routes).2 := by
        unfold addUnder
        rw [shifted.base, shifted.root]
        rcases first base with ⟨error, other, plain, moved, same⟩ | ⟨resolved, plain, moved⟩
        · rw [plain, moved]
          exact ⟨congrArg some same, shifted⟩
        · rw [plain, moved]
          exact shifted.addEach static resolved routes
      obtain ⟨same, kept⟩ := added
      rw [call_routesUnder, call_routesUnder, mapError_elim, mapError_elim, same]
      exact ⟨rfl, kept⟩

theorem Shifted.calls (static : lead.isStatic = true) (calls : List (Call α))
    (shifted : Shifted lead inside outside) :
    (inside.calls calls).1.map (Except.mapError PatternError.unplaced) =
        (outside.calls calls).1.map (Except.mapError PatternError.unplaced) ∧
      Shifted lead (inside.calls calls).2 (outside.calls calls).2 := by
  induction calls generalizing inside outside with
  | nil => exact ⟨rfl, shifted⟩
  | cons next rest inductionHypothesis =>
      obtain ⟨same, kept⟩ := shifted.call static next
      obtain ⟨further, last⟩ := inductionHypothesis kept
      refine ⟨?_, last⟩
      rw [Router.calls, Router.calls, List.map_cons, List.map_cons, same, further]

/-! ## What is found -/

theorem Shifted.route? (static : lead.isStatic = true) (shifted : Shifted lead inside outside)
    {target outer : Target} (asterisk : outer.isAsterisk = target.isAsterisk)
    (path : outer.path = lead.texts ++ target.path) :
    (inside.route? outer).map (fun found => (found.1, found.2.pathParams)) =
      (outside.route? target).map fun found => (found.1, found.2.pathParams) := by
  obtain ⟨insertions, plain, moved⟩ := shifted.routes
  unfold Router.route?
  rw [asterisk, path, plain, moved, Trie.find?_placed static]
  split
  · rfl
  · rw [Option.map_map, Option.map_map, Option.map_map]
    rfl

theorem Shifted.route?_eq_none (static : lead.isStatic = true)
    (shifted : Shifted lead inside outside) {outer : Target}
    (apart : ¬ lead.texts <+: outer.path) : inside.route? outer = none := by
  obtain ⟨insertions, _, moved⟩ := shifted.routes
  unfold Router.route?
  rw [moved, Trie.find?_placed_eq_none static insertions apart]
  split
  · rfl
  · rfl

end

/-- **A static namespace is transparent.** Whatever registrations are made, behind a namespace of
literal segments each of them succeeds or fails as it does without the namespace, for the same
reason, and replaces the same value. A target whose path is that of another one behind the segments
of the namespace is then led to the same value with the same parameters, if the other one is led
anywhere without the namespace. A target whose path does not start with these segments is led
nowhere. -/
theorem namespace_transparent {base : String} {start : Router α}
    (opened : ofNamespace base = .ok start) (static : start.base.isStatic = true)
    (calls : List (Call α)) :
    (start.calls calls).1.map (Except.mapError PatternError.unplaced) =
        ((Router.empty : Router α).calls calls).1.map (Except.mapError PatternError.unplaced) ∧
      (∀ target outer : Target, outer.isAsterisk = target.isAsterisk →
        outer.path = start.base.texts ++ target.path →
          ((start.calls calls).2.route? outer).map (fun found => (found.1, found.2.pathParams)) =
            (((Router.empty : Router α).calls calls).2.route? target).map
              fun found => (found.1, found.2.pathParams)) ∧
      ∀ outer : Target, ¬ start.base.texts <+: outer.path →
        (start.calls calls).2.route? outer = none := by
  obtain ⟨lead, _, rfl⟩ := of_ofNamespace opened
  have begun : Shifted lead (⟨.empty, lead⟩ : Router α) .empty := ⟨rfl, rfl, [], rfl, rfl⟩
  obtain ⟨answers, kept⟩ := begun.calls static calls
  refine ⟨answers, ?_, ?_⟩
  · intro target outer asterisk path
    exact kept.route? static asterisk path
  · intro outer apart
    exact kept.route?_eq_none static apart

/-! ## A namespace of a version -/

/-- A router under `/api/v2`. -/
def versioned : Router Nat :=
  ⟨.empty, ⟨[.literal "api", .literal "v2"]⟩⟩

/-- Registrations of which the second replaces the first one, and the last one ends at its second
route. -/
def versionedCalls : List (Call Nat) :=
  [.route "/items/:id" 1, .route "/items/:key" 2, .route "/:kind|it/7" 3,
    .routesUnder ":tenant" [("/7", 4), ("/:tenant", 5), ("/8", 6)]]

/-- A target with some path. -/
def targetTo (path : List String) : Target :=
  ⟨path, none, "/", false, [], .empty⟩

theorem namespace_transparent_versioned :
    ofNamespace "/api/v2" = .ok versioned ∧ versioned.base.isStatic = true ∧
      (versioned.calls versionedCalls).1.map (Except.mapError PatternError.unplaced) =
        [.ok none, .ok (some 1), .ok none, .error (.duplicateCapture "tenant" "")] ∧
      ((versioned.calls versionedCalls).2.route? (targetTo ["api", "v2", "items", "7"])).map
        (fun found => (found.1, found.2.pathParams)) = some (3, [("kind", "items")]) ∧
      (versioned.calls versionedCalls).2.route? (targetTo ["items", "7"]) = none := by
  have compiled : Pattern.ofRoute "/api/v2" = .ok ⟨[.literal "api", .literal "v2"]⟩ := by
    decide +kernel
  have opened : ofNamespace "/api/v2" = .ok versioned := by
    unfold ofNamespace
    rw [compiled]
    rfl
  obtain ⟨answers, found, nothing⟩ := namespace_transparent opened (by decide) versionedCalls
  refine ⟨opened, by decide, answers.trans ?_, ?_, nothing (targetTo ["items", "7"]) (by decide)⟩
  · decide +kernel
  · exact (found (targetTo ["items", "7"]) (targetTo ["api", "v2", "items", "7"]) rfl rfl).trans
      (by decide +kernel)

end Router

end HttpService.Routing
