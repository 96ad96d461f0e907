import HttpService.Proofs.Routing.Namespaces
import HttpService.Proofs.Targets.Paths

/-!
Contract: texts that are routes and targets at the same time.

Owns:
- the segments of a path, as routes and as targets have them, with missing, doubled and trailing
  slashes;
- static routes, which win the path of their own segments against all others;
- **a text without special characters names one path**, as a route and as a target, unless it is
  three slashes or more.

Does not own: routes that capture, and escaped targets.
-/

namespace HttpService.Routing

open Text

/-! ## Slashes -/

theorem splitOn_replicate (count : Nat) :
    (List.replicate count '/').splitOn '/' = List.replicate (count + 1) [] := by
  induction count with
  | zero => rfl
  | succ count inductionHypothesis =>
      rw [List.replicate_succ, List.splitOn_cons_eq_if_modifyHead, if_pos (beq_self_eq_true '/'),
        inductionHypothesis, List.replicate_succ (n := count + 1)]

theorem eq_replicate_of_splitOn {chars : List Char}
    (empty : ∀ piece ∈ chars.splitOn '/', piece = []) :
    ∃ count, chars = List.replicate count '/' := by
  induction chars with
  | nil => exact ⟨0, rfl⟩
  | cons c rest inductionHypothesis =>
      rw [List.splitOn_cons_eq_if_modifyHead] at empty
      by_cases slash : c = '/'
      · subst slash
        rw [if_pos (beq_self_eq_true '/')] at empty
        obtain ⟨count, shape⟩ := inductionHypothesis fun piece member =>
          empty piece (List.mem_cons_of_mem [] member)
        exact ⟨count + 1, by rw [shape, List.replicate_succ]⟩
      · rw [if_neg (by simpa using slash)] at empty
        cases pieces : rest.splitOn '/' with
        | nil => exact absurd pieces (List.splitOn_ne_nil _ _)
        | cons piece further =>
            rw [pieces, List.modifyHead_cons] at empty
            exact absurd (empty _ List.mem_cons_self) (List.cons_ne_nil c piece)

theorem getLast?_splitOn_ne {chars : List Char} (filled : chars ≠ [])
    (unslashed : chars.getLast? ≠ some '/') : (chars.splitOn '/').getLast? ≠ some [] := by
  obtain ⟨items, item, rfl⟩ := (List.eq_nil_or_concat' chars).resolve_left filled
  rw [List.getLast?_concat] at unslashed
  have different : item ≠ '/' := fun same => unslashed (congrArg some same)
  obtain ⟨front, last, _, grown⟩ := splitOn_concat different items
  rw [grown, List.getLast?_concat]
  simp

theorem splitPath_slash (body : List Char) :
    splitPath ('/' :: body) =
      if dropTrail '/' body = [] then [] else (dropTrail '/' body).splitOn '/' := by
  unfold splitPath
  rw [dropLead, if_pos (beq_self_eq_true '/')]
  cases dropTrail '/' body with
  | nil => rfl
  | cons c rest => rfl

theorem dropTrail_concat (front : List Char) : dropTrail '/' (front ++ ['/']) = front := by
  unfold dropTrail
  rw [List.getLast?_concat, if_pos (by decide), List.dropLast_concat]

theorem dropTrail_of_ne {body : List Char} (unslashed : body.getLast? ≠ some '/') :
    dropTrail '/' body = body :=
  if_neg (by simpa using unslashed)

/-- A missing slash in front of a route makes no difference. -/
theorem splitPath_of_bare {c : Char} (bare : c ≠ '/') (rest : List Char) :
    splitPath (c :: rest) = splitPath ('/' :: c :: rest) := by
  have kept : dropLead '/' (c :: rest) = dropLead '/' ('/' :: c :: rest) :=
    if_neg (by simpa using bare)
  unfold splitPath
  rw [kept]

theorem rawSegments_of_bare {c : Char} (bare : c ≠ '/') (rest : List Char) :
    Target.rawSegments (c :: rest) = (c :: rest).splitOn '/' := by
  unfold Target.rawSegments
  rw [List.splitOn_cons_eq_if_modifyHead, if_neg (by simpa using bare)]
  cases rest.splitOn '/' with
  | nil => rfl
  | cons piece further => rfl

/-! ## One path -/

theorem splitPath_replicate {count : Nat} (several : 3 ≤ count) :
    splitPath (List.replicate count '/') = List.replicate (count - 1) [] := by
  obtain ⟨inner, rfl⟩ : ∃ inner, count = inner + 3 := ⟨count - 3, by omega⟩
  have body : List.replicate (inner + 2) '/' = List.replicate (inner + 1) '/' ++ ['/'] :=
    List.replicate_succ'
  rw [List.replicate_succ, body, splitPath_slash, dropTrail_concat, if_neg (by simp),
    splitOn_replicate]
  rfl

theorem normalize_replicate (count : Nat) :
    Target.normalize ((Target.rawSegments (List.replicate count '/')).map String.ofList) = [] := by
  apply Target.normalize_of_forall_empty
  intro segment member
  obtain ⟨piece, written, rfl⟩ := List.mem_map.mp member
  cases count with
  | zero => cases written
  | succ count =>
      rw [List.replicate_succ, Target.rawSegments_slash, splitOn_replicate] at written
      rw [(List.mem_replicate.mp written).2]

/-- Behind a slash, a route and a target have the same segments. -/
theorem normalize_rawSegments_slash {body : List Char}
    (mixed : ∀ count ≥ 2, body ≠ List.replicate count '/') :
    Target.normalize ((Target.rawSegments ('/' :: body)).map String.ofList) =
      (splitPath ('/' :: body)).map String.ofList := by
  rw [Target.rawSegments_slash, splitPath_slash]
  by_cases slashed : body.getLast? = some '/'
  · -- The slash at the end leaves an empty segment, which neither of them has.
    obtain ⟨front, rfl⟩ := List.getLast?_eq_some_iff.mp slashed
    have pieces : (front ++ ['/']).splitOn '/' = front.splitOn '/' ++ [[]] :=
      List.splitOn_append_cons_self front []
    rw [dropTrail_concat]
    by_cases empty : front = []
    · subst empty
      rfl
    · have named : ∃ segment ∈ (front.splitOn '/').map String.ofList, segment ≠ "" := by
        by_cases blank : ∀ piece ∈ front.splitOn '/', piece = []
        · obtain ⟨count, rfl⟩ := eq_replicate_of_splitOn blank
          have some : count ≠ 0 := by
            rintro rfl
            exact empty rfl
          exact absurd List.replicate_succ'.symm (mixed (count + 1) (by omega))
        · simp only [not_forall] at blank
          obtain ⟨piece, member, filled⟩ := blank
          refine ⟨String.ofList piece, List.mem_map_of_mem member, ?_⟩
          intro same
          exact filled (by simpa using same)
      rw [if_neg empty, pieces, List.map_append]
      exact Target.normalize_concat_empty named
  · rw [dropTrail_of_ne slashed]
    by_cases empty : body = []
    · subst empty
      rfl
    · have last : ((body.splitOn '/').map String.ofList).getLast? ≠ some "" := by
        rw [List.getLast?_map]
        intro blank
        obtain ⟨piece, found, same⟩ := Option.map_eq_some_iff.mp blank
        have nothing : piece = [] := by simpa using same
        exact getLast?_splitOn_ne empty slashed (nothing ▸ found)
      rw [if_neg empty]
      exact Target.normalize_of_last last

/-- A route and a target that are written alike have the same segments, unless they are three
slashes or more. -/
theorem normalize_rawSegments {chars : List Char}
    (mixed : ∀ count ≥ 3, chars ≠ List.replicate count '/') :
    Target.normalize ((Target.rawSegments chars).map String.ofList) =
      (splitPath chars).map String.ofList := by
  cases chars with
  | nil => rfl
  | cons c rest =>
      by_cases slash : c = '/'
      · subst slash
        apply normalize_rawSegments_slash
        rintro count several rfl
        exact mixed (count + 1) (by omega) List.replicate_succ.symm
      · have behind : ∀ count ≥ 2, c :: rest ≠ List.replicate count '/' := by
          intro count several same
          have first : c ∈ List.replicate count '/' := same ▸ List.mem_cons_self
          exact slash (List.mem_replicate.mp first).2
        rw [splitPath_of_bare slash, ← normalize_rawSegments_slash behind,
          Target.rawSegments_slash, rawSegments_of_bare slash]

/-! ## Static routes -/

variable {α : Type}

namespace Pattern

/-- The pattern of literal segments. -/
def ofTexts (texts : List String) : Pattern :=
  ⟨texts.map Segment.literal⟩

theorem isStatic_ofTexts (texts : List String) : (ofTexts texts).isStatic = true := by
  unfold isStatic ofTexts
  simp [Segment.isDynamic]

theorem covers_ofTexts_iff {texts path : List String} :
    (ofTexts texts).covers path = true ↔ path = texts := by
  have keys : (ofTexts texts).keys = texts.map Key.exact ++ [] := by
    unfold keys ofTexts
    rw [List.map_map, List.append_nil]
    rfl
  unfold covers
  rw [keys, acceptAll_exact []]
  constructor
  · rintro ⟨rest, rfl, accepted⟩
    cases rest with
    | nil => exact List.append_nil texts
    | cons segment rest => cases accepted
  · rintro rfl
    exact ⟨[], (List.append_nil _).symm, rfl⟩

theorem eq_ofTexts {pattern : Pattern} (static : pattern.isStatic = true) :
    pattern = ofTexts pattern.texts := by
  unfold ofTexts
  rw [← segments_of_isStatic static]

theorem captureNames_ofTexts (texts : List String) : (ofTexts texts).captureNames = [] := by
  unfold captureNames ofTexts
  rw [List.filterMap_map, List.filterMap_eq_nil_iff]
  exact fun _ _ => rfl

theorem capture_ofTexts (texts path : List String) :
    Segment.capture (ofTexts texts).segments path = [] := by
  unfold ofTexts
  induction texts generalizing path with
  | nil => cases path <;> rfl
  | cons text rest inductionHypothesis =>
      cases path with
      | nil => rfl
      | cons segment path => exact inductionHypothesis path

end Pattern

namespace Registration

/-- A static registration is what the scan for its own path finds. -/
theorem scan_of_static {held : List (Registration α)} (separate : Separate held)
    {texts : List String} {value : α} {place : Nat}
    (member : ⟨.ofTexts texts, value, place⟩ ∈ held) :
    scan held texts = some ⟨value, .ofTexts texts, []⟩ := by
  have candidate : ⟨.ofTexts texts, value, place⟩ ∈ held.filter (·.pattern.covers texts) :=
    List.mem_filter.mpr ⟨member, Pattern.covers_ofTexts_iff.mpr rfl⟩
  unfold scan
  cases least : (held.filter (·.pattern.covers texts)).argmin rank with
  | none =>
      rw [List.argmin_eq_none.mp least] at candidate
      cases candidate
  | some best =>
      obtain ⟨bestHeld, covered⟩ := List.mem_filter.mp (List.argmin_mem least)
      -- Nothing but a static registration ranks before a static one, and no other has these keys.
      have before : best.rank ≤ rank ⟨.ofTexts texts, value, place⟩ :=
        List.le_of_mem_argmin candidate least
      have static : best.pattern.isStatic = true := by
        have first : (!best.pattern.isStatic) ≤ (!(Pattern.ofTexts texts).isStatic) := by
          rcases Prod.Lex.toLex_le_toLex.mp before with less | ⟨same, _⟩
          · exact less.le
          · exact same.le
        rw [Pattern.isStatic_ofTexts] at first
        cases dynamic : best.pattern.isStatic with
        | true => rfl
        | false =>
            rw [dynamic] at first
            exact absurd first (by decide)
      have same : best.pattern = .ofTexts texts := by
        have covers := covered
        rw [Pattern.eq_ofTexts static, Pattern.covers_ofTexts_iff] at covers
        rw [covers]
        exact Pattern.eq_ofTexts static
      have only : best = ⟨.ofTexts texts, value, place⟩ :=
        List.inj_on_of_nodup_map separate.keys bestHeld member (by rw [same])
      rw [only]
      exact congrArg (fun params => some (Match.mk value (.ofTexts texts) params))
        (Pattern.capture_ofTexts texts texts)

end Registration

namespace Router

/-- A static route is reached by the path of its own segments, whatever else is registered. -/
theorem find?_insert_ofTexts {router : Router α} (filled : router.Filled) (texts : List String)
    (value : α) :
    (router.insert (.ofTexts texts) value).routes.find? texts =
      some ⟨value, .ofTexts texts, []⟩ := by
  obtain ⟨insertions, routes, _⟩ := filled
  have separate :=
    (Registration.separate_ofInsertions insertions).register (.ofTexts texts) value
  have holds := (Trie.holds_ofInsertions insertions).insert (.ofTexts texts) value
  have known := Registration.withKeys?_register (Registration.ofInsertions insertions)
    (.ofTexts texts) value (Pattern.ofTexts texts).keys
  rw [if_pos rfl, separate.withKeys?_eq_some_iff] at known
  show (router.routes.insert _ value).2.find? texts = _
  rw [routes, holds.find?_eq separate, Registration.scan_of_static separate known.1]

theorem route?_ofPath {router : Router α} {path : List String} {value : α} {pattern : Pattern}
    (found : router.routes.find? path = some ⟨value, pattern, []⟩) (written : String) :
    router.route? (.ofPath path written) = some (value, .ofPath path written) := by
  unfold route?
  show (router.routes.find? path).map _ = _
  rw [found]
  rfl

theorem add_of_root {router : Router α} (root : router.base = .root) {raw : String}
    {texts : List String} (compiled : Pattern.ofRoute raw = .ok (.ofTexts texts)) (value : α) :
    ∃ replaced, router.add raw value = .ok (replaced, router.insert (.ofTexts texts) value) := by
  have placed : (Pattern.ofTexts texts).under .root = .ok (.ofTexts texts) := by
    have distinct : (Pattern.ofTexts texts).captureNames.Nodup := by
      rw [Pattern.captureNames_ofTexts]
      exact List.nodup_nil
    exact Pattern.checkCaptures_eq_ok_iff.mpr ⟨rfl, distinct⟩
  have resolved : resolve router.base raw = .ok (.ofTexts texts) := by
    unfold resolve
    rw [root, compiled]
    exact placed
  unfold add
  rw [resolved]
  exact ⟨_, rfl⟩

end Router

/-! ## Texts that are both -/

/-- A text without escapes, query, fragment, control characters and captures, which does not
stand for the service as a whole. -/
structure Plain (raw : String) : Prop where
  named : raw ≠ "*"
  isPath : Target.IsPath raw.toList
  unescaped : '%' ∉ raw.toList
  uncaptured : ∀ piece ∈ raw.toList.splitOn '/', piece.head? ≠ some ':'

/-- The segments of a route are among the pieces between slashes. -/
theorem mem_splitOn_of_mem_splitPath {chars piece : List Char} (member : piece ∈ splitPath chars) :
    piece ∈ chars.splitOn '/' := by
  have behind : ∀ body, piece ∈ splitPath ('/' :: body) → piece ∈ body.splitOn '/' := by
    intro body member
    rw [splitPath_slash] at member
    split at member
    · cases member
    · by_cases slashed : body.getLast? = some '/'
      · obtain ⟨front, rfl⟩ := List.getLast?_eq_some_iff.mp slashed
        rw [dropTrail_concat] at member
        rw [List.splitOn_append_cons_self]
        exact List.mem_append_left _ member
      · rwa [dropTrail_of_ne slashed] at member
  cases chars with
  | nil => cases member
  | cons c rest =>
      by_cases slash : c = '/'
      · subst slash
        rw [List.splitOn_cons_eq_if_modifyHead, if_pos (beq_self_eq_true '/')]
        exact List.mem_cons_of_mem [] (behind rest member)
      · rw [splitPath_of_bare slash] at member
        exact behind (c :: rest) member

theorem mem_splitOn_of_mem_rawSegments {chars piece : List Char}
    (member : piece ∈ Target.rawSegments chars) : piece ∈ chars.splitOn '/' := by
  unfold Target.rawSegments at member
  split at member
  · rename_i rest pieces
    rw [pieces]
    exact List.mem_cons_of_mem [] member
  · exact member

section

variable {raw : String}

theorem ofRoute_of_plain (plain : Plain raw) :
    Pattern.ofRoute raw = .ok (.ofTexts ((splitPath raw.toList).map String.ofList)) := by
  have literal : ∀ pieces : List (List Char), (∀ piece ∈ pieces, piece.head? ≠ some ':') →
      readSegments .route raw pieces =
        .ok ((pieces.map String.ofList).map Segment.literal) := by
    intro pieces
    induction pieces with
    | nil => exact fun _ => rfl
    | cons piece rest inductionHypothesis =>
        intro uncaptured
        have further := inductionHypothesis fun other member =>
          uncaptured other (List.mem_cons_of_mem piece member)
        have first := uncaptured piece List.mem_cons_self
        have undynamic : dynamicPart? .route piece = none := by
          cases piece with
          | nil => rfl
          | cons c inner =>
              have other : c ≠ ':' := fun same => first (congrArg some same)
              unfold dynamicPart?
              split
              · rename_i same
                exact absurd (List.cons.inj same).1 other
              · contradiction
              · rfl
        unfold readSegments readSegment
        rw [undynamic]
        simp only [further]
        rfl
  have segments := literal (splitPath raw.toList) fun piece member =>
    plain.uncaptured piece (mem_splitOn_of_mem_splitPath member)
  unfold Pattern.ofRoute Pattern.parse
  rw [segments]
  refine Pattern.checkCaptures_eq_ok_iff.mpr ⟨rfl, ?_⟩
  show (Pattern.ofTexts _).captureNames.Nodup
  rw [Pattern.captureNames_ofTexts]
  exact List.nodup_nil

theorem parse_of_plain (plain : Plain raw) :
    Target.parse raw = .ok (.ofPath
      (Target.normalize ((Target.rawSegments raw.toList).map String.ofList))
      (Target.withSlash raw.toList)) := by
  have decoded : Target.decodeSegments ((Target.rawSegments raw.toList).map id) =
      .ok ((Target.rawSegments raw.toList).map String.ofList) := by
    apply Target.decodeSegments_map
    intro piece member
    apply Target.decodeSegment_of_not_mem
    intro mark
    exact plain.unescaped (mem_of_mem_splitOn (mem_splitOn_of_mem_rawSegments member) mark)
  rw [List.map_id] at decoded
  rw [Target.parse_of_isPath plain.named plain.isPath, decoded]
  rfl

end

/-- **A plain text is the same route and target.** It is read as both. Its route is made of literal
segments, and these are the path of its target: in every router without a namespace the route is
reached by the target, as soon as it is registered. A text of three slashes or more is the one
exception: as a target it is the root, and as a route it has empty segments only, which are the path
of no target. -/
theorem plain_named_alike (plain : Plain raw) :
    ∃ pattern target, Pattern.ofRoute raw = .ok pattern ∧ Target.parse raw = .ok target ∧
      pattern.isStatic = true ∧
      ((∀ count ≥ 3, raw.toList ≠ List.replicate count '/') →
        pattern.segments = target.path.map .literal ∧
          ∀ router : Router α, router.Built → router.base = .root → ∀ value,
            ∃ replaced after, router.add raw value = .ok (replaced, after) ∧
              after.route? target = some (value, target)) ∧
      ∀ count ≥ 3, raw.toList = List.replicate count '/' →
        target.path = [] ∧ pattern.segments = List.replicate (count - 1) (.literal "") ∧
          ∀ other reached, Target.parse other = .ok reached →
            pattern.segments ≠ reached.path.map .literal := by
  refine ⟨_, _, ofRoute_of_plain plain, parse_of_plain plain, Pattern.isStatic_ofTexts _, ?_, ?_⟩
  · intro mixed
    have same := normalize_rawSegments mixed
    refine ⟨congrArg (List.map Segment.literal) same.symm, ?_⟩
    intro router built root value
    have found := Router.find?_insert_ofTexts built.filled
      ((splitPath raw.toList).map String.ofList) value
    obtain ⟨replaced, added⟩ := Router.add_of_root root (ofRoute_of_plain plain) value
    refine ⟨replaced, _, added, ?_⟩
    rw [same]
    exact Router.route?_ofPath found _
  · intro count several slashes
    have root := normalize_replicate count
    have blank : (splitPath (List.replicate count '/')).map String.ofList =
        List.replicate (count - 1) "" := by
      rw [splitPath_replicate several, List.map_replicate]
    rw [slashes]
    refine ⟨root, ?_, ?_⟩
    · show List.map Segment.literal _ = _
      rw [blank, List.map_replicate]
    · intro other reached parsed same
      have blankPath : reached.path.map Segment.literal =
          List.replicate (count - 1) (Segment.literal "") := by
        rw [← same]
        show List.map Segment.literal _ = _
        rw [blank, List.map_replicate]
      have named : reached.path ≠ [] := by
        intro none
        rw [none] at blankPath
        have lengths := congrArg List.length blankPath
        simp only [List.map_nil, List.length_nil, List.length_replicate] at lengths
        omega
      obtain ⟨segment, member, filled⟩ := Target.exists_ne_of_parse parsed named
      have literal := List.mem_map_of_mem (f := Segment.literal) member
      rw [blankPath] at literal
      exact filled (Segment.literal.inj (List.mem_replicate.mp literal).2)

/-- A router with a route that captures every path of two segments. -/
def guestbook : Router Nat :=
  (Router.empty.call (.route "/:book/:page" 1)).2

theorem plain_named_alike_doubled :
    Plain "a//" ∧ Pattern.ofRoute "a//" = .ok (.ofTexts ["a", ""]) ∧
      Target.parse "a//" = .ok (.ofPath ["a", ""] "/a//") ∧
      ∃ replaced after, guestbook.add "a//" 2 = .ok (replaced, after) ∧
        after.route? (.ofPath ["a", ""] "/a//") = some (2, .ofPath ["a", ""] "/a//") := by
  have shown : ("a//".toList.all fun c => !Target.isControl c) = true := by decide
  have plain : Plain "a//" := by
    refine ⟨by decide, ⟨by decide, by decide, fun c member => ?_⟩, by decide, by decide⟩
    simpa using List.all_eq_true.mp shown c member
  have mixed : ∀ count ≥ 3, "a//".toList ≠ List.replicate count '/' := by
    intro count _ same
    have first : 'a' ∈ List.replicate count '/' := same ▸ List.mem_cons_self
    exact absurd (List.mem_replicate.mp first).2 (by decide)
  have compiled : Pattern.ofRoute "a//" = .ok (.ofTexts ["a", ""]) := by decide +kernel
  have parsed : Target.parse "a//" = .ok (.ofPath ["a", ""] "/a//") := by decide +kernel
  obtain ⟨pattern, target, asRoute, asTarget, _, reached, _⟩ := plain_named_alike (α := Nat) plain
  rw [compiled] at asRoute
  rw [parsed] at asTarget
  cases asRoute
  cases asTarget
  exact ⟨plain, compiled, parsed, (reached mixed).2 guestbook (.call .empty _) rfl 2⟩

end HttpService.Routing
