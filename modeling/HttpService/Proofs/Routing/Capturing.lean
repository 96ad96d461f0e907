import HttpService.Proofs.Routing.Registering
import HttpService.Proofs.Text.Utf8

/-!
Contract: what a route captures.

Owns:
- the segments that a wildcard accepts: its opening, something that is not empty, its closing;
- what a pattern captures of a path that it covers, segment by segment;
- **captures are complete, exact and fresh**: the parameters of a routed target are those of the
  route that was found, and a target without a route stays as it is.

Does not own: which of several routes is found.
-/

namespace HttpService.Routing

variable {α : Type}

/-! ## Segments that a wildcard accepts -/

theorem exists_middle {opening closing whole : List Char} (opens : opening <+: whole)
    (closes : closing <:+ whole) (longer : opening.length + closing.length < whole.length) :
    ∃ middle, middle ≠ [] ∧ whole = opening ++ middle ++ closing := by
  obtain ⟨rest, rfl⟩ := opens
  rw [List.length_append] at longer
  -- The closing ends the rest behind the opening, for it is shorter than the rest.
  obtain ⟨middle, rfl⟩ := List.suffix_of_suffix_length_le closes (List.suffix_append opening rest)
    (by omega)
  refine ⟨middle, ?_, (List.append_assoc _ _ _).symm⟩
  rintro rfl
  rw [List.nil_append] at longer
  omega

/-- An opening and a closing never overlap in what a wildcard accepts. -/
theorem accepts_wildcard_iff {opening closing segment : String} :
    (Key.wildcard opening closing).accepts segment = true ↔
      ∃ middle, middle ≠ "" ∧ segment = opening ++ middle ++ closing := by
  simp only [Key.accepts, Bool.and_eq_true, decide_eq_true_eq, List.isPrefixOf_iff_prefix,
    List.isSuffixOf_iff_suffix]
  constructor
  · rintro ⟨⟨longer, opens⟩, closes⟩
    obtain ⟨middle, filled, whole⟩ := exists_middle opens closes longer
    refine ⟨String.ofList middle, ?_, ?_⟩
    · intro empty
      apply filled
      simpa using congrArg String.toList empty
    · rw [← String.toList_inj, whole]
      simp
  · rintro ⟨middle, filled, rfl⟩
    have filled : 0 < middle.length := by
      rw [Nat.pos_iff_ne_zero]
      intro empty
      exact filled (String.length_eq_zero_iff.mp empty)
    refine ⟨⟨?_, ?_⟩, ?_⟩
    · rw [String.length_append, String.length_append]
      omega
    · rw [String.toList_append, String.toList_append, List.append_assoc]
      exact List.prefix_append _ _
    · rw [String.toList_append]
      exact List.suffix_append _ _

/-- Between an opening and a closing there is something left in characters if and only if there
is in octets. -/
theorem longer_iff_octets {opening closing whole : List Char} (opens : opening <+: whole)
    (closes : closing <:+ whole) :
    opening.length + closing.length < whole.length ↔
      (Utf8.spell opening).length + (Utf8.spell closing).length < (Utf8.spell whole).length := by
  constructor
  · intro longer
    obtain ⟨middle, filled, rfl⟩ := exists_middle opens closes longer
    have octets : 0 < (Utf8.spell middle).length :=
      List.length_pos_iff.mpr fun empty => filled (Utf8.spell_eq_nil_iff.mp empty)
    rw [Utf8.spell_append, Utf8.spell_append, List.length_append, List.length_append]
    omega
  · intro longer
    by_contra short
    obtain ⟨rest, rfl⟩ := opens
    rw [List.length_append] at short
    -- What is behind the opening then belongs to the closing.
    obtain ⟨front, rfl⟩ := List.suffix_of_suffix_length_le (List.suffix_append opening rest) closes
      (by omega)
    rw [Utf8.spell_append, Utf8.spell_append, List.length_append, List.length_append] at longer
    omega

/-- It makes no difference whether lengths are compared in characters or in octets. -/
theorem accepts_wildcard_octets (opening closing segment : String) :
    (Key.wildcard opening closing).accepts segment = true ↔
      (Utf8.encode opening).length + (Utf8.encode closing).length <
          (Utf8.encode segment).length ∧
        opening.toList <+: segment.toList ∧ closing.toList <:+ segment.toList := by
  simp only [Key.accepts, Bool.and_eq_true, decide_eq_true_eq, List.isPrefixOf_iff_prefix,
    List.isSuffixOf_iff_suffix, Utf8.encode_eq_spell]
  constructor
  · rintro ⟨⟨longer, opens⟩, closes⟩
    exact ⟨(longer_iff_octets opens closes).mp longer, opens, closes⟩
  · rintro ⟨longer, opens, closes⟩
    exact ⟨⟨(longer_iff_octets opens closes).mpr longer, opens⟩, closes⟩

/-! ## What a pattern captures -/

theorem accepts_getElem? : ∀ {keys : List Key} {path : List String},
    Key.acceptAll keys path = true → ∀ {index : Nat} {key : Key}, keys[index]? = some key →
      ∃ text, path[index]? = some text ∧ key.accepts text = true
  | [], _, _, index, key, found => by simp at found
  | _ :: _, [], accepted, _, _, _ => by cases accepted
  | first :: keys, text :: path, accepted, index, key, found => by
      rw [Key.acceptAll, Bool.and_eq_true] at accepted
      cases index with
      | zero =>
          cases found
          exact ⟨text, rfl, accepted.1⟩
      | succ index => exact accepts_getElem? accepted.2 found

section

variable {segments : List Segment} {path : List String}

/-- Names are captured in the order of the dynamic segments, each once. -/
theorem names_capture (accepted : Key.acceptAll (segments.map Segment.key) path = true) :
    (Segment.capture segments path).map Prod.fst = segments.filterMap Segment.capture? := by
  induction segments generalizing path with
  | nil => rfl
  | cons segment rest inductionHypothesis =>
      cases path with
      | nil => cases accepted
      | cons text path =>
          rw [List.map_cons, Key.acceptAll, Bool.and_eq_true] at accepted
          have further := inductionHypothesis accepted.2
          cases segment with
          | literal exact => exact further
          | dynamic name opening closing => exact congrArg (name :: ·) further

theorem mem_capture {index : Nat} {name opening closing text : String}
    (dynamic : segments[index]? = some (.dynamic name opening closing))
    (held : path[index]? = some text) : (name, text) ∈ Segment.capture segments path := by
  induction segments generalizing path index with
  | nil => simp at dynamic
  | cons segment rest inductionHypothesis =>
      cases path with
      | nil => simp at held
      | cons first path =>
          cases index with
          | zero =>
              cases dynamic
              cases held
              exact List.mem_cons_self
          | succ index =>
              have further := inductionHypothesis dynamic held
              cases segment with
              | literal exact => exact further
              | dynamic => exact List.mem_cons_of_mem _ further

end

/-- Where names are distinct, a name leads to its own text. -/
theorem lookup_of_mem {name text : String} : ∀ {params : List (String × String)},
    (params.map Prod.fst).Nodup → (name, text) ∈ params → params.lookup name = some text
  | (first, other) :: rest, distinct, member => by
      obtain ⟨fresh, further⟩ := List.nodup_cons.mp distinct
      rcases List.mem_cons.mp member with here | later
      · cases here
        exact List.lookup_cons_self
      · have different : name ≠ first := by
          rintro rfl
          exact fresh (List.mem_map.mpr ⟨(name, text), later, rfl⟩)
        rw [List.lookup_cons, beq_eq_false_iff_ne.mpr different]
        exact lookup_of_mem further later

/-! ## Routed targets -/

/-- What a pattern captures on a target that is routed by it. -/
structure Captures (pattern : Pattern) (target routed : Target) : Prop where
  /-- Each segment of the path has its own segment of the pattern. -/
  length : pattern.segments.length = target.path.length
  literal : ∀ (index : Nat) (text : String),
    pattern.segments[index]? = some (.literal text) → target.path[index]? = some text
  /-- There is one parameter for each dynamic segment, under its name, and no other. -/
  names : routed.pathParams.map Prod.fst = pattern.captureNames
  distinct : pattern.captureNames.Nodup
  /-- The parameter is the whole segment, in which opening and closing do not overlap. -/
  dynamic : ∀ (index : Nat) (name opening closing : String),
    pattern.segments[index]? = some (.dynamic name opening closing) →
      ∃ middle, middle ≠ "" ∧ target.path[index]? = some (opening ++ middle ++ closing) ∧
        routed.param? name = some (opening ++ middle ++ closing)
  /-- Nothing else is changed. -/
  rest : { routed with pathParams := target.pathParams } = target

theorem captures_of_covers {pattern : Pattern} {target : Target}
    (covered : pattern.covers target.path = true) (distinct : pattern.captureNames.Nodup) :
    Captures pattern target
      { target with pathParams := Segment.capture pattern.segments target.path } where
  length := Pattern.length_of_covers covered
  literal := by
    intro index text literal
    have key : pattern.keys[index]? = some (.exact text) := by
      rw [Pattern.keys, List.getElem?_map, literal]
      rfl
    obtain ⟨held, found, accepted⟩ := accepts_getElem? covered key
    have same : text = held := beq_iff_eq.mp accepted
    rw [found, same]
  names := names_capture covered
  distinct := distinct
  dynamic := by
    intro index name opening closing dynamic
    have key : pattern.keys[index]? = some (.wildcard opening closing) := by
      rw [Pattern.keys, List.getElem?_map, dynamic]
      rfl
    obtain ⟨held, found, accepted⟩ := accepts_getElem? covered key
    obtain ⟨middle, filled, rfl⟩ := accepts_wildcard_iff.mp accepted
    refine ⟨middle, filled, found, lookup_of_mem ?_ (mem_capture dynamic found)⟩
    rw [names_capture covered]
    exact distinct
  rest := rfl

/-- What is found is listed, covers the path, and comes with what its pattern captures. -/
theorem Trie.of_find? {insertions : List (Pattern × α)} {path : List String} {found : Match α}
    (search : (Trie.ofInsertions insertions).find? path = some found) :
    (found.pattern, found.value) ∈ (Trie.ofInsertions insertions).toList ∧
      found.pattern.covers path = true ∧
      found.params = Segment.capture found.pattern.segments path := by
  rw [(holds_ofInsertions insertions).find?_eq (Registration.separate_ofInsertions insertions)]
    at search
  obtain ⟨best, least, rfl⟩ := Option.map_eq_some_iff.mp search
  obtain ⟨held, covered⟩ := List.mem_filter.mp (List.argmin_mem least)
  rw [toList_eq_map_registrations]
  exact ⟨List.mem_map.mpr ⟨best, held, rfl⟩, covered, rfl⟩

namespace Router

/-- The target behind the search for its route: with what the route has captured, or as it came. -/
def routed (router : Router α) (target : Target) : Target :=
  match router.route? target with
  | some (_, routed) => routed
  | none => target

theorem Filled.captures {router : Router α} (filled : router.Filled) {target routed : Target}
    {value : α} (route : router.route? target = some (value, routed)) :
    ∃ found, router.routes.find? target.path = some found ∧ found.value = value ∧
      (found.pattern, value) ∈ router.toList ∧ Captures found.pattern target routed := by
  obtain ⟨insertions, routes, distinct⟩ := filled
  unfold route? at route
  split at route
  · cases route
  · obtain ⟨found, search, same⟩ := Option.map_eq_some_iff.mp route
    cases same
    rw [routes] at search
    obtain ⟨listed, covered, params⟩ := Trie.of_find? search
    have inserted := (Trie.mem_insertions_of_find? search).1
    refine ⟨found, routes ▸ search, rfl, ?_, ?_⟩
    · unfold Router.toList
      rw [routes]
      exact listed
    · rw [params]
      exact captures_of_covers covered (distinct _ inserted)

/-- **Captures are complete, exact and fresh.** Whatever has been registered, and whatever
parameters a target has from before: if a route is found, it is a listed one whose pattern has a
segment for each segment of the path, its literal segments are those of the path, and behind the
search the target has one parameter for each dynamic segment of that pattern and no other: under
its name the whole segment of the path in its place, which has the opening in front, the closing
behind, and something in between. If none is found, the target stays as it is. -/
theorem Built.route_captures {router : Router α} (built : router.Built) (target : Target) :
    (∀ value routed, router.route? target = some (value, routed) →
      router.routed target = routed ∧
        ∃ found, router.routes.find? target.path = some found ∧ found.value = value ∧
          (found.pattern, value) ∈ router.toList ∧ Captures found.pattern target routed) ∧
      (router.route? target = none → router.routed target = target) := by
  refine ⟨?_, ?_⟩
  · intro value routed route
    refine ⟨?_, built.filled.captures route⟩
    unfold Router.routed
    rw [route]
  · intro astray
    unfold Router.routed
    rw [astray]

/-! ## A router of pictures -/

/-- Pictures of a tenant, registered twice under different names. -/
def pictures : Router Nat :=
  (((⟨.empty, ⟨[.literal "v1", .dynamic "tenant" "" ""]⟩⟩ : Router Nat).call
    (.route "/files/:name|img-|.png" 1)).2.call
      (.routesUnder "files" [("/:file|img-|.png", 2), ("/:tenant", 3)])).2

theorem built_pictures : pictures.Built := by
  have compiled : Pattern.ofRoute "/v1/:tenant" =
      .ok ⟨[.literal "v1", .dynamic "tenant" "" ""]⟩ := by
    decide +kernel
  refine .call (.call (@Built.ofNamespace Nat "/v1/:tenant" _ ?_) _) _
  unfold ofNamespace
  rw [compiled]
  rfl

/-- The pattern of the later registration. -/
def picturePattern : Pattern :=
  ⟨[.literal "v1", .dynamic "tenant" "" "", .literal "files", .dynamic "file" "img-" ".png"]⟩

/-- A target that a route has been found for before. -/
def pictureTarget : Target :=
  ⟨["v1", "é", "files", "img-é.png"], none, "/", false, [("name", "old"), ("file", "old")], .empty⟩

/-- That target with what the pattern captures on it. -/
def picturedTarget : Target :=
  { pictureTarget with pathParams := [("tenant", "é"), ("file", "img-é.png")] }

/-- That target with a path that is too short. -/
def shortTarget : Target :=
  { pictureTarget with rewrittenPath := some ["v1", "é", "files"] }

theorem route_captures_pictures :
    pictures.Built ∧ pictures.route? pictureTarget = some (2, picturedTarget) ∧
      Captures picturePattern pictureTarget picturedTarget ∧
      pictures.route? shortTarget = none ∧ pictures.routed shortTarget = shortTarget := by
  have route : pictures.route? pictureTarget = some (2, picturedTarget) := by decide +kernel
  have astray : pictures.route? shortTarget = none := by decide +kernel
  obtain ⟨_, found, search, _, _, captures⟩ :=
    (built_pictures.route_captures pictureTarget).1 _ _ route
  have pattern : found.pattern = picturePattern := by
    have shown : (pictures.routes.find? pictureTarget.path).map Match.pattern =
        some picturePattern := by
      decide +kernel
    rw [search] at shown
    exact Option.some.inj shown
  exact ⟨built_pictures, route, pattern ▸ captures, astray,
    (built_pictures.route_captures _).2 astray⟩

end Router

end HttpService.Routing
