import HttpService.Proofs.Routing.Compiling
import HttpService.Proofs.Routing.Spelling

/-!
Contract: the displayed form of a pattern, read as a route again.

Owns:
- how a segment is displayed, and that this denotes the same segment;
- the pieces that are read from pieces joined by slashes;
- **which patterns their displayed form names**, and that it names a shorter one for all others.

Does not own: texts that are refused.
-/

namespace HttpService.Routing

open Text

/-! ## Displayed segments -/

/-- How a segment is displayed behind a slash. -/
def Segment.written : Segment → List Char
  | literal text => text.toList
  | dynamic name opening closing =>
      ':' :: (name.toList ++
        ((if opening ≠ "" ∨ closing ≠ "" then '|' :: opening.toList else []) ++
          if closing ≠ "" then '|' :: closing.toList else []))

theorem Segment.toList_render (segment : Segment) :
    segment.render.toList = '/' :: segment.written := by
  cases segment with
  | literal text =>
      unfold render written
      rw [String.toList_append]
      rfl
  | dynamic name opening closing =>
      unfold render written
      simp only [String.toList_append]
      split <;> split <;> simp

theorem Pattern.toList_render (pattern : Pattern) :
    pattern.render.toList = '/' :: ['/'].intercalate (pattern.segments.map Segment.written) := by
  unfold render
  cases pattern.segments with
  | nil => rfl
  | cons first rest =>
      simp only [String.toList_join, List.flatMap_map]
      induction rest generalizing first with
      | nil => simp [Segment.toList_render]
      | cons next rest inductionHypothesis =>
          rw [List.flatMap_cons, inductionHypothesis next, Segment.toList_render, List.map_cons,
            List.map_cons, List.map_cons, List.intercalate_cons_cons]
          simp

section

variable {piece : List Char} {segment : Segment}

/-- A name with its constraints is displayed in the shortest form that denotes it. -/
theorem denotes_written_dynamic {name opening closing : List Char} (isName : IsCaptureName name)
    (opens : IsConstraint opening) (closes : IsConstraint closing) :
    Dialect.route.Denotes
      (Segment.dynamic (String.ofList name) (String.ofList opening) (String.ofList closing)).written
      (.dynamic (String.ofList name) (String.ofList opening) (String.ofList closing)) := by
  unfold Segment.written
  by_cases unclosed : closing = []
  · subst unclosed
    by_cases unopened : opening = []
    · subst unopened
      have bare : Dialect.route.Denotes (':' :: name) _ := .dynamic (.name isName)
      simpa using bare
    · have opened : Dialect.route.Denotes (':' :: (name ++ '|' :: opening)) _ :=
        .dynamic (.opening isName opens)
      simpa [unopened] using opened
  · have closed : Dialect.route.Denotes (':' :: (name ++ '|' :: (opening ++ '|' :: closing))) _ :=
      .dynamic (.closing isName opens closes)
    simpa [unclosed] using closed

/-- The displayed form of a segment denotes it. It is the piece that denoted the segment before, but
for bars at its end. -/
theorem Dialect.Denotes.written (denotes : Dialect.route.Denotes piece segment) :
    Dialect.route.Denotes segment.written segment ∧ segment.written <+: piece := by
  have free : IsConstraint [] := fun _ member => nomatch member
  cases denotes with
  | literal unmarked =>
      rw [Segment.written, String.toList_ofList]
      exact ⟨.literal unmarked, List.prefix_refl _⟩
  | dynamic form =>
      cases form with
      | name isName =>
          refine ⟨denotes_written_dynamic isName free free, ?_⟩
          simp [Segment.written, Dialect.mark]
      | opening isName opens =>
          refine ⟨denotes_written_dynamic isName opens free, ?_⟩
          rw [Segment.written, Dialect.mark, List.cons_prefix_cons]
          refine ⟨rfl, ?_⟩
          split <;> simp
      | closing isName opens closes =>
          refine ⟨denotes_written_dynamic isName opens closes, ?_⟩
          rw [Segment.written, Dialect.mark, List.cons_prefix_cons]
          refine ⟨rfl, ?_⟩
          split <;> split <;> simp_all

theorem Segment.written_eq_nil_iff : segment.written = [] ↔ segment = .literal "" := by
  cases segment with
  | literal text => simp [written]
  | dynamic name opening closing => simp [written]

end

/-! ## Joined pieces -/

section

variable {pieces : List (List Char)}

/-- Pieces without slashes are read again, unless the last one is empty. -/
theorem splitPath_intercalate (unslashed : ∀ piece ∈ pieces, '/' ∉ piece)
    (filled : pieces.getLast? ≠ some []) :
    splitPath ('/' :: ['/'].intercalate pieces) = pieces := by
  symm
  apply divides_iff.mp
  refine ⟨?_, unslashed, ?_⟩
  · rw [dropLead, if_pos (beq_self_eq_true '/'), dropTrail_of_ne]
    intro ended
    rcases List.eq_nil_or_concat' pieces with rfl | ⟨front, last, rfl⟩
    · cases ended
    · have closes : last.getLast? = some '/' := by
        rw [List.getLast?_concat] at filled
        obtain ⟨c, rest, rfl⟩ := List.exists_cons_of_ne_nil fun none => filled (congrArg some none)
        by_cases alone : front = []
        · subst alone
          simpa using ended
        · rw [intercalate_concat alone] at ended
          simpa using ended
      exact unslashed last (by simp) (List.mem_of_getLast? closes)
  · rintro rfl
    exact filled rfl

/-- An empty piece at the end is lost. -/
theorem splitPath_intercalate_concat (unslashed : ∀ piece ∈ pieces, '/' ∉ piece) :
    splitPath ('/' :: ['/'].intercalate (pieces ++ [[]])) = if pieces = [[]] then [] else pieces := by
  symm
  apply divides_iff.mp
  by_cases alone : pieces = [[]]
  · subst alone
    exact ⟨rfl, by simp, by simp⟩
  · rw [if_neg alone]
    refine ⟨?_, unslashed, alone⟩
    rw [dropLead, if_pos (beq_self_eq_true '/')]
    by_cases none : pieces = []
    · subst none
      rfl
    · rw [intercalate_concat none, dropTrail_concat]

end

/-! ## Patterns -/

namespace Pattern

theorem parse_eq_ok_iff {dialect : Dialect} {raw : String} {pattern : Pattern} :
    parse dialect raw = .ok pattern ↔
      List.Forall₂ dialect.Denotes (splitPath raw.toList) pattern.segments ∧
        pattern.captureNames.Nodup := by
  rw [← @readSegments_eq_ok_iff dialect raw]
  unfold parse
  cases readSegments dialect raw (splitPath raw.toList) with
  | error error => simp
  | ok segments =>
      simp only [checkCaptures_eq_ok_iff, Except.ok.injEq]
      constructor
      · rintro ⟨rfl, distinct⟩
        exact ⟨rfl, distinct⟩
      · rintro ⟨rfl, distinct⟩
        exact ⟨rfl, distinct⟩

end Pattern

/-- Segments of which a route pattern can be made: each is denoted by its displayed form, which fits
between slashes, and their names are distinct. -/
structure Spelled (segments : List Segment) : Prop where
  unslashed : ∀ segment ∈ segments, '/' ∉ segment.written
  denoted : ∀ segment ∈ segments, Dialect.route.Denotes segment.written segment
  distinct : (Pattern.captureNames ⟨segments⟩).Nodup

theorem spelled_of_ofRoute {raw : String} {pattern : Pattern}
    (compiled : Pattern.ofRoute raw = .ok pattern) : Spelled pattern.segments := by
  obtain ⟨denoted, distinct⟩ := Pattern.parse_eq_ok_iff.mp compiled
  have pieces := (divides_iff.mpr rfl : Divides raw.toList (splitPath raw.toList)).unslashed
  have each : ∀ segment ∈ pattern.segments, ∃ piece ∈ splitPath raw.toList,
      Dialect.route.Denotes piece segment := by
    intro segment member
    obtain ⟨index, bound, rfl⟩ := List.getElem_of_mem member
    have within : index < (splitPath raw.toList).length := denoted.length_eq ▸ bound
    exact ⟨_, List.getElem_mem within, denoted.get within bound⟩
  refine ⟨?_, ?_, distinct⟩
  · intro segment member slash
    obtain ⟨piece, cut, denotes⟩ := each segment member
    exact pieces piece cut (denotes.written.2.subset slash)
  · intro segment member
    obtain ⟨piece, -, denotes⟩ := each segment member
    exact denotes.written.1

/-- What is displayed of segments in front of an empty literal: nothing if they are an empty literal
themselves, for their slashes are the two that do not count. -/
def shownOf (lead : List Segment) : List Segment :=
  if lead = [.literal ""] then [] else lead

theorem shownOf_begins (lead : List Segment) : shownOf lead <+: lead := by
  unfold shownOf
  split
  · exact List.nil_prefix
  · exact List.prefix_refl lead

namespace Spelled

variable {segments lead : List Segment}

theorem of_prefix (spelled : Spelled segments) (begins : lead <+: segments) : Spelled lead := by
  refine ⟨?_, ?_, ?_⟩
  · exact fun segment member => spelled.unslashed segment (begins.subset member)
  · exact fun segment member => spelled.denoted segment (begins.subset member)
  · exact spelled.distinct.sublist (begins.sublist.filterMap Segment.capture?)

/-- Such segments are read from every text that is divided into their displayed forms. -/
theorem ofRoute_eq (spelled : Spelled segments) {raw : String}
    (divided : splitPath raw.toList = segments.map Segment.written) :
    Pattern.ofRoute raw = .ok ⟨segments⟩ := by
  refine Pattern.parse_eq_ok_iff.mpr ⟨?_, spelled.distinct⟩
  rw [divided, List.forall₂_map_left_iff]
  exact List.forall₂_same.mpr spelled.denoted

theorem pieces (spelled : Spelled segments) :
    ∀ piece ∈ segments.map Segment.written, '/' ∉ piece := by
  intro piece member
  obtain ⟨segment, held, rfl⟩ := List.mem_map.mp member
  exact spelled.unslashed segment held

theorem ofRoute_render (spelled : Spelled segments)
    (filled : segments.getLast? ≠ some (.literal "")) :
    Pattern.ofRoute (Pattern.render ⟨segments⟩) = .ok ⟨segments⟩ := by
  apply spelled.ofRoute_eq
  rw [Pattern.toList_render]
  apply splitPath_intercalate spelled.pieces
  intro last
  rw [List.getLast?_map, Option.map_eq_some_iff] at last
  obtain ⟨segment, found, blank⟩ := last
  exact filled (Segment.written_eq_nil_iff.mp blank ▸ found)

/-- An empty literal at the end is lost. -/
theorem ofRoute_render_concat (spelled : Spelled (lead ++ [.literal ""])) :
    Pattern.ofRoute (Pattern.render ⟨lead ++ [.literal ""]⟩) = .ok ⟨shownOf lead⟩ := by
  have front : Spelled lead := spelled.of_prefix (List.prefix_append _ _)
  apply (front.of_prefix (shownOf_begins lead)).ofRoute_eq
  have shape : (lead ++ [Segment.literal ""]).map Segment.written =
      lead.map Segment.written ++ [[]] := by
    rw [List.map_append]
    rfl
  have blank : lead.map Segment.written = [[]] ↔ lead = [.literal ""] := by
    simp [List.map_eq_singleton_iff, Segment.written_eq_nil_iff]
  rw [Pattern.toList_render, shape, splitPath_intercalate_concat front.pieces, shownOf]
  simp only [blank]
  split <;> rfl

end Spelled

namespace Pattern

/-- **Displayed patterns.** The displayed form of a compiled route names that route exactly if it is
the root, or its last segment is not an empty literal. Otherwise the displayed form is compiled to a
shorter pattern, which begins like it. -/
theorem displayed_named {raw : String} {pattern : Pattern} (compiled : ofRoute raw = .ok pattern) :
    (ofRoute pattern.render = .ok pattern ↔
      pattern = .root ∨ pattern.segments.getLast? ≠ some (.literal "")) ∧
    (¬ (pattern = .root ∨ pattern.segments.getLast? ≠ some (.literal "")) →
      ∃ shorter, ofRoute pattern.render = .ok shorter ∧ shorter.segments <+: pattern.segments ∧
        shorter.segments.length < pattern.segments.length) := by
  have spelled := spelled_of_ofRoute compiled
  obtain ⟨segments⟩ := pattern
  by_cases filled : segments.getLast? ≠ some (.literal "")
  · exact ⟨iff_of_true (spelled.ofRoute_render filled) (.inr filled),
      fun neither => absurd (.inr filled) neither⟩
  · obtain ⟨lead, rfl⟩ := List.getLast?_eq_some_iff.mp (not_not.mp filled)
    have read := spelled.ofRoute_render_concat
    have begins := shownOf_begins lead
    have shorter : (shownOf lead).length < (lead ++ [Segment.literal ""]).length := by
      have bound := begins.length_le
      rw [List.length_append, List.length_singleton]
      omega
    refine ⟨iff_of_false ?_ ?_, fun _ => ⟨_, read, begins.trans (List.prefix_append _ _), shorter⟩⟩
    · intro same
      rw [read, Except.ok.injEq, Pattern.mk.injEq] at same
      rw [same] at shorter
      exact Nat.lt_irrefl _ shorter
    · rintro (root | named)
      · exact absurd (Pattern.mk.inj root) (by simp)
      · exact filled named

/-- A route with an empty segment at its end, and its constraint written behind an empty one. -/
theorem displayed_named_doubled :
    ofRoute "//:file||.png//" = .ok ⟨[.literal "", .dynamic "file" "" ".png", .literal ""]⟩ ∧
      ∃ shorter, ofRoute "//:file||.png/" = .ok shorter ∧
        shorter.segments <+: [.literal "", .dynamic "file" "" ".png", .literal ""] ∧
        shorter.segments.length < 3 := by
  have compiled : ofRoute "//:file||.png//" =
      .ok ⟨[.literal "", .dynamic "file" "" ".png", .literal ""]⟩ := by
    decide +kernel
  exact ⟨compiled, (displayed_named compiled).2 (by decide)⟩

end Pattern

end HttpService.Routing
