import HttpService.Proofs.Routing.Registering
import HttpService.Proofs.Text.Trim
import Mathlib.Data.List.Forall2

/-!
Contract: which texts are patterns, and what they are compiled to.

Owns:
- the pieces of a path, the grammar of segments in both dialects, and which segment a piece denotes;
- what reading comes to, piece by piece, and the first piece that fails;
- the first name that repeats another one;
- **that exactly the texts of the grammar are compiled**, and the error that all others lead to.

Does not own: patterns under other patterns, and what a pattern matches.
-/

namespace HttpService.Routing

open Text

/-! ## The grammar -/

/-- The pieces of a path stand between its slashes, where one slash at either end does not count. A
path of nothing else has no pieces, and not an empty one. -/
structure Divides (path : List Char) (pieces : List (List Char)) : Prop where
  joined : ['/'].intercalate pieces = dropTrail '/' (dropLead '/' path)
  unslashed : ∀ piece ∈ pieces, '/' ∉ piece
  filled : pieces ≠ [[]]

/-- Names of captures: word characters and hyphens, at least one. -/
def IsCaptureName (name : List Char) : Prop :=
  name ≠ [] ∧ ∀ c ∈ name, isWord c = true ∨ c = '-'

/-- What a captured segment may have to start or to end with: word characters, dots and hyphens. -/
def IsConstraint (text : List Char) : Prop :=
  ∀ c ∈ text, isWord c = true ∨ c = '.' ∨ c = '-'

/-- What may stand between the marks of a dynamic segment: a name, and up to two constraints behind
bars. A constraint that is missing is empty. -/
inductive Form : List Char → Segment → Prop where
  | name {name : List Char} (isName : IsCaptureName name) :
      Form name (.dynamic (String.ofList name) "" "")
  | opening {name opening : List Char} (isName : IsCaptureName name)
      (opens : IsConstraint opening) :
      Form (name ++ '|' :: opening) (.dynamic (String.ofList name) (String.ofList opening) "")
  | closing {name opening closing : List Char} (isName : IsCaptureName name)
      (opens : IsConstraint opening) (closes : IsConstraint closing) :
      Form (name ++ '|' :: (opening ++ '|' :: closing))
        (.dynamic (String.ofList name) (String.ofList opening) (String.ofList closing))

namespace Dialect

/-- Whether a piece has the marks of a dynamic segment. -/
def Marks : Dialect → List Char → Prop
  | .route, piece => [':'] <+: piece
  | .rewrite, piece => ['$', '{'] <+: piece ∧ ['}'] <:+ piece

/-- A text between the marks of a dynamic segment. -/
def mark : Dialect → List Char → List Char
  | .route, inner => ':' :: inner
  | .rewrite, inner => '$' :: '{' :: (inner ++ ['}'])

/-- Which segment a piece between slashes denotes. Without marks it is literal. -/
inductive Denotes (dialect : Dialect) : List Char → Segment → Prop where
  | literal {piece : List Char} (unmarked : ¬ dialect.Marks piece) :
      dialect.Denotes piece (.literal (String.ofList piece))
  | dynamic {inner : List Char} {segment : Segment} (form : Form inner segment) :
      dialect.Denotes (dialect.mark inner) segment

/-- A piece that denotes no segment. -/
def IllFormed (dialect : Dialect) (piece : List Char) : Prop :=
  ∀ segment, ¬ dialect.Denotes piece segment

end Dialect

/-- An item is the first one of its kind. -/
def IsFirst {α : Type} (kind : α → Prop) (items : List α) (item : α) : Prop :=
  ∃ front rest, items = front ++ item :: rest ∧ (∀ other ∈ front, ¬ kind other) ∧ kind item

/-- A name is the first one that stands among those before it. -/
def IsFirstRepeated (names : List String) (name : String) : Prop :=
  ∃ front rest, names = front ++ name :: rest ∧ front.Nodup ∧ name ∈ front

section

variable {α : Type} {kind : α → Prop} {item other : α} {rest : List α}

theorem isFirst_cons_of (holds : kind item) : IsFirst kind (item :: rest) other ↔ other = item := by
  constructor
  · rintro ⟨front, behind, shape, none, -⟩
    cases front with
    | nil => exact (List.cons.inj shape).1.symm
    | cons first front =>
        have same := (List.cons.inj shape).1
        exact absurd (same ▸ holds) (none first List.mem_cons_self)
  · rintro rfl
    exact ⟨[], rest, rfl, by simp, holds⟩

theorem isFirst_cons_of_not (fails : ¬ kind item) :
    IsFirst kind (item :: rest) other ↔ IsFirst kind rest other := by
  constructor
  · rintro ⟨front, behind, shape, none, holds⟩
    cases front with
    | nil =>
        have same := (List.cons.inj shape).1
        exact absurd (same ▸ holds) fails
    | cons first front =>
        exact ⟨front, behind, (List.cons.inj shape).2,
          fun later member => none later (List.mem_cons_of_mem first member), holds⟩
  · rintro ⟨front, behind, rfl, none, holds⟩
    refine ⟨item :: front, behind, rfl, ?_, holds⟩
    intro later member
    rcases List.mem_cons.mp member with rfl | inside
    · exact fails
    · exact none later inside

end

/-! ## Slashes -/

theorem splitPath_eq (path : List Char) :
    splitPath path = if dropTrail '/' (dropLead '/' path) = [] then []
      else (dropTrail '/' (dropLead '/' path)).splitOn '/' := by
  unfold splitPath
  cases dropTrail '/' (dropLead '/' path) with
  | nil => rfl
  | cons c rest => rfl

/-- Every path has pieces, and no others. -/
theorem divides_iff {path : List Char} {pieces : List (List Char)} :
    Divides path pieces ↔ pieces = splitPath path := by
  rw [splitPath_eq]
  constructor
  · rintro ⟨joined, unslashed, filled⟩
    rw [← joined]
    by_cases none : pieces = []
    · subst none
      rfl
    · have split := List.splitOn_intercalate '/' unslashed none
      rw [if_neg, split]
      intro empty
      rw [empty, List.splitOn_nil] at split
      exact filled split.symm
  · rintro rfl
    split
    · rename_i empty
      exact ⟨empty.symm, by simp, by simp⟩
    · rename_i filled
      refine ⟨List.intercalate_splitOn '/', fun _ => not_mem_of_mem_splitOn, fun empty => filled ?_⟩
      have joined : ['/'].intercalate ((dropTrail '/' (dropLead '/' path)).splitOn '/') = _ :=
        List.intercalate_splitOn '/'
      rw [empty, List.intercalate_singleton] at joined
      exact joined.symm

/-! ## Dynamic segments -/

theorem isName_iff {name : List Char} : isName name = true ↔ IsCaptureName name := by
  unfold isName IsCaptureName isNameChar
  simp

theorem all_isConstraintChar_iff {text : List Char} :
    text.all isConstraintChar = true ↔ IsConstraint text := by
  unfold IsConstraint isConstraintChar
  simp [or_assoc]

theorem bar_not_mem_name {name : List Char} (isName : IsCaptureName name) : '|' ∉ name := by
  intro member
  rcases isName.2 '|' member with word | hyphen
  · cases word
  · cases hyphen

theorem bar_not_mem_constraint {text : List Char} (constrains : IsConstraint text) :
    '|' ∉ text := by
  intro member
  rcases constrains '|' member with word | dot | hyphen
  · cases word
  · cases dot
  · cases hyphen

theorem made_iff {name opening closing : List Char} {segment : Segment} :
    (if isName name && opening.all isConstraintChar && closing.all isConstraintChar then
        some (Segment.dynamic (String.ofList name) (String.ofList opening) (String.ofList closing))
      else none) = some segment ↔
      (IsCaptureName name ∧ IsConstraint opening ∧ IsConstraint closing) ∧
        segment = .dynamic (String.ofList name) (String.ofList opening) (String.ofList closing) := by
  rw [Option.ite_none_right_eq_some, Bool.and_eq_true, Bool.and_eq_true, isName_iff,
    all_isConstraintChar_iff, all_isConstraintChar_iff, Option.some.injEq]
  exact and_congr and_assoc eq_comm

/-- Between the marks, exactly the forms of dynamic segments are read. -/
theorem readDynamic?_eq_some_iff {inner : List Char} {segment : Segment} :
    readDynamic? inner = some segment ↔ Form inner segment := by
  constructor
  · intro read
    have joined : ['|'].intercalate (inner.splitOn '|') = inner := List.intercalate_splitOn '|'
    unfold readDynamic? at read
    simp only at read
    split at read
    · rename_i name pieces
      obtain ⟨⟨isName, -⟩, rfl⟩ := made_iff.mp read
      rw [pieces, List.intercalate_singleton] at joined
      rw [← joined]
      exact .name isName
    · rename_i name opening pieces
      obtain ⟨⟨isName, opens, -⟩, rfl⟩ := made_iff.mp read
      rw [pieces, List.intercalate_cons_cons, List.intercalate_singleton, List.append_assoc] at joined
      rw [← joined]
      exact .opening isName opens
    · rename_i name opening closing pieces
      obtain ⟨⟨isName, opens, closes⟩, rfl⟩ := made_iff.mp read
      rw [pieces, List.intercalate_cons_cons, List.intercalate_cons_cons, List.intercalate_singleton,
        List.append_assoc, List.append_assoc] at joined
      rw [← joined]
      exact .closing isName opens closes
    · cases read
  · intro form
    have unconstrained : IsConstraint [] := fun _ member => nomatch member
    unfold readDynamic?
    cases form with
    | name isName =>
        rw [List.splitOn_eq_singleton (bar_not_mem_name isName)]
        exact made_iff.mpr ⟨⟨isName, unconstrained, unconstrained⟩, rfl⟩
    | opening isName opens =>
        rw [List.splitOn_append_cons_self, List.splitOn_eq_singleton (bar_not_mem_name isName),
          List.splitOn_eq_singleton (bar_not_mem_constraint opens)]
        exact made_iff.mpr ⟨⟨isName, opens, unconstrained⟩, rfl⟩
    | closing isName opens closes =>
        rw [List.splitOn_append_cons_self, List.splitOn_append_cons_self,
          List.splitOn_eq_singleton (bar_not_mem_name isName),
          List.splitOn_eq_singleton (bar_not_mem_constraint opens),
          List.splitOn_eq_singleton (bar_not_mem_constraint closes)]
        exact made_iff.mpr ⟨⟨isName, opens, closes⟩, rfl⟩

/-! ## Pieces -/

section

variable {dialect : Dialect} {raw : String} {piece : List Char}

/-- A piece with marks is a text between them, for the marks do not overlap. -/
theorem marks_iff : dialect.Marks piece ↔ ∃ inner, piece = dialect.mark inner := by
  cases dialect with
  | route =>
      constructor
      · rintro ⟨inner, rfl⟩
        exact ⟨inner, rfl⟩
      · rintro ⟨inner, rfl⟩
        exact List.prefix_append [':'] inner
  | rewrite =>
      constructor
      · rintro ⟨⟨inner, rfl⟩, ⟨front, ended⟩⟩
        have last := congrArg List.getLast? ended
        rw [List.getLast?_concat] at last
        rcases List.eq_nil_or_concat' inner with rfl | ⟨body, final, rfl⟩
        · cases last
        · rw [← List.append_assoc, List.getLast?_concat] at last
          cases last
          exact ⟨body, rfl⟩
      · rintro ⟨inner, rfl⟩
        exact ⟨List.prefix_append ['$', '{'] _, List.suffix_append ('$' :: '{' :: inner) _⟩

theorem dynamicPart?_eq_some_iff {inner : List Char} :
    dynamicPart? dialect piece = some inner ↔ piece = dialect.mark inner := by
  cases dialect with
  | route =>
      constructor
      · intro found
        unfold dynamicPart? at found
        split at found
        · cases found
          rfl
        · contradiction
        · cases found
      · rintro rfl
        rfl
  | rewrite =>
      constructor
      · intro found
        unfold dynamicPart? at found
        split at found
        · contradiction
        · rw [Option.ite_none_right_eq_some, Option.some.injEq] at found
          obtain ⟨ended, rfl⟩ := found
          obtain ⟨front, rfl⟩ := List.getLast?_eq_some_iff.mp ended
          rw [List.dropLast_concat]
          rfl
        · cases found
      · rintro rfl
        show (if (inner ++ ['}']).getLast? = some '}' then some (inner ++ ['}']).dropLast else none) = _
        rw [List.getLast?_concat, if_pos rfl, List.dropLast_concat]

theorem dynamicPart?_eq_none_iff : dynamicPart? dialect piece = none ↔ ¬ dialect.Marks piece := by
  rw [marks_iff, Option.eq_none_iff_forall_ne_some, not_exists]
  simp only [ne_eq, dynamicPart?_eq_some_iff]

theorem readSegment_eq_ok_iff {segment : Segment} :
    readSegment dialect raw piece = .ok segment ↔ dialect.Denotes piece segment := by
  unfold readSegment
  cases marked : dynamicPart? dialect piece with
  | none =>
      have unmarked := dynamicPart?_eq_none_iff.mp marked
      simp only [Except.ok.injEq]
      constructor
      · rintro rfl
        exact .literal unmarked
      · intro denotes
        cases denotes with
        | literal => rfl
        | dynamic form =>
            rw [dynamicPart?_eq_some_iff.mpr rfl] at marked
            cases marked
  | some inner =>
      have form := @readDynamic?_eq_some_iff inner segment
      have shape := dynamicPart?_eq_some_iff.mp marked
      have denotes : dialect.Denotes piece segment ↔ Form inner segment := by
        constructor
        · intro denotes
          cases denotes with
          | literal unmarked =>
              rw [dynamicPart?_eq_none_iff.mpr unmarked] at marked
              cases marked
          | dynamic form =>
              rw [dynamicPart?_eq_some_iff.mpr rfl] at marked
              cases marked
              exact form
        · intro form
          rw [shape]
          exact .dynamic form
      rw [denotes, ← form]
      simp only
      cases readDynamic? inner with
      | none => simp
      | some found => simp

theorem readSegment_eq_error_iff {error : PatternError} :
    readSegment dialect raw piece = .error error ↔
      dialect.IllFormed piece ∧ error = .invalidSegment (String.ofList piece) raw := by
  unfold Dialect.IllFormed
  simp only [← @readSegment_eq_ok_iff dialect raw piece]
  unfold readSegment
  cases dynamicPart? dialect piece with
  | none => simp
  | some inner =>
      simp only
      cases readDynamic? inner with
      | none => simp [eq_comm]
      | some found => simp

theorem readSegments_eq_ok_iff {pieces : List (List Char)} {segments : List Segment} :
    readSegments dialect raw pieces = .ok segments ↔
      List.Forall₂ dialect.Denotes pieces segments := by
  induction pieces generalizing segments with
  | nil => simp [readSegments, eq_comm]
  | cons piece rest inductionHypothesis =>
      rw [readSegments, List.forall₂_cons_left_iff]
      simp only [← @readSegment_eq_ok_iff dialect raw, ← inductionHypothesis]
      cases readSegment dialect raw piece with
      | error error => simp
      | ok segment =>
          cases readSegments dialect raw rest with
          | error error => simp
          | ok further => simp [eq_comm]

/-- The first piece that denotes nothing is reported. -/
theorem readSegments_eq_error_iff {pieces : List (List Char)} {error : PatternError} :
    readSegments dialect raw pieces = .error error ↔
      ∃ piece, IsFirst dialect.IllFormed pieces piece ∧
        error = .invalidSegment (String.ofList piece) raw := by
  induction pieces with
  | nil => simp [readSegments, IsFirst]
  | cons piece rest inductionHypothesis =>
      rw [readSegments]
      cases read : readSegment dialect raw piece with
      | error first =>
          obtain ⟨illFormed, rfl⟩ := readSegment_eq_error_iff.mp read
          simp [isFirst_cons_of illFormed, eq_comm]
      | ok segment =>
          have wellFormed : ¬ dialect.IllFormed piece := fun illFormed =>
            illFormed segment (readSegment_eq_ok_iff.mp read)
          simp only [isFirst_cons_of_not wellFormed, ← inductionHypothesis]
          cases readSegments dialect raw rest with
          | error later => simp
          | ok segments => simp

end

/-! ## Names -/

/-- The first repeated name is one that stands among those before it, or is known already. -/
theorem firstRepeated?_eq_some_iff {names : List String} {name : String} : ∀ {seen : List String},
    firstRepeated? seen names = some name ↔
      ∃ front rest, names = front ++ name :: rest ∧ front.Nodup ∧ (∀ other ∈ front, other ∉ seen) ∧
        (name ∈ seen ∨ name ∈ front) := by
  induction names with
  | nil => simp [firstRepeated?]
  | cons first rest inductionHypothesis =>
      intro seen
      rw [firstRepeated?]
      by_cases known : first ∈ seen
      · rw [if_pos known, Option.some.injEq]
        constructor
        · rintro rfl
          exact ⟨[], rest, rfl, List.nodup_nil, by simp, .inl known⟩
        · rintro ⟨front, behind, shape, -, fresh, -⟩
          cases front with
          | nil => exact (List.cons.inj shape).1
          | cons other front =>
              have same := (List.cons.inj shape).1
              exact absurd (same ▸ known) (fresh other List.mem_cons_self)
      · rw [if_neg known, inductionHypothesis]
        constructor
        · rintro ⟨front, behind, rfl, distinct, fresh, held⟩
          refine ⟨first :: front, behind, rfl, ?_, ?_, ?_⟩
          · exact List.nodup_cons.mpr ⟨fun member => fresh first member List.mem_cons_self, distinct⟩
          · intro other member
            rcases List.mem_cons.mp member with rfl | later
            · exact known
            · exact fun old => fresh other later (List.mem_cons_of_mem first old)
          · rcases held with old | later
            · rcases List.mem_cons.mp old with rfl | earlier
              · exact .inr List.mem_cons_self
              · exact .inl earlier
            · exact .inr (List.mem_cons_of_mem first later)
        · rintro ⟨front, behind, shape, distinct, fresh, held⟩
          cases front with
          | nil =>
              have same := (List.cons.inj shape).1
              refine absurd ?_ known
              rw [same]
              exact held.resolve_right List.not_mem_nil
          | cons other front =>
              obtain ⟨rfl, rfl⟩ := List.cons.inj shape
              obtain ⟨apart, further⟩ := List.nodup_cons.mp distinct
              refine ⟨front, behind, rfl, further, ?_, ?_⟩
              · intro later member old
                rcases List.mem_cons.mp old with rfl | earlier
                · exact apart member
                · exact fresh later (List.mem_cons_of_mem first member) earlier
              · rcases held with old | later
                · exact .inl (List.mem_cons_of_mem first old)
                · rcases List.mem_cons.mp later with rfl | member
                  · exact .inl List.mem_cons_self
                  · exact .inr member

namespace Pattern

theorem checkCaptures_eq_error_iff {pattern : Pattern} {raw : String} {error : PatternError} :
    pattern.checkCaptures raw = .error error ↔
      ∃ name, IsFirstRepeated pattern.captureNames name ∧ error = .duplicateCapture name raw := by
  have repeated := fun name => @firstRepeated?_eq_some_iff pattern.captureNames name []
  simp only [List.not_mem_nil, not_false_eq_true, implies_true, true_and, false_or] at repeated
  unfold checkCaptures IsFirstRepeated
  simp only [← repeated]
  cases firstRepeated? [] pattern.captureNames with
  | none => simp
  | some name => simp [eq_comm]

/-- **Exactly the texts of the grammar are patterns.** In both dialects: a text is compiled if every
piece between its slashes denotes a segment, and no two of these segments have the same name; the
pattern has these segments, one for each piece, in order. Any other text is refused: because of the
first piece that denotes nothing, or, if all of them denote something, because of the first name that
stands among those before it. -/
theorem compiled_exactly (dialect : Dialect) (raw : String) :
    ∃ pieces, Divides raw.toList pieces ∧
      (∀ pattern, parse dialect raw = .ok pattern ↔
        List.Forall₂ dialect.Denotes pieces pattern.segments ∧ pattern.captureNames.Nodup) ∧
      ∀ error, parse dialect raw = .error error ↔
        (∃ piece, IsFirst dialect.IllFormed pieces piece ∧
          error = .invalidSegment (String.ofList piece) raw) ∨
        ∃ segments name, List.Forall₂ dialect.Denotes pieces segments ∧
          IsFirstRepeated (captureNames ⟨segments⟩) name ∧ error = .duplicateCapture name raw := by
  have denoted := @readSegments_eq_ok_iff dialect raw (splitPath raw.toList)
  have refused := @readSegments_eq_error_iff dialect raw (splitPath raw.toList)
  refine ⟨splitPath raw.toList, divides_iff.mpr rfl, ?_⟩
  unfold parse
  simp only [← denoted, ← refused]
  cases readSegments dialect raw (splitPath raw.toList) with
  | error error => simp
  | ok segments =>
      simp only [checkCaptures_eq_ok_iff, checkCaptures_eq_error_iff]
      constructor
      · intro pattern
        constructor
        · rintro ⟨rfl, distinct⟩
          exact ⟨rfl, distinct⟩
        · rintro ⟨same, distinct⟩
          cases same
          exact ⟨rfl, distinct⟩
      · intro error
        simp

/-- A piece that denotes nothing is reported before a name that stands twice in front of it. -/
example : ofRoute "/:id/:id/:id|a|b|c/" =
    .error (.invalidSegment ":id|a|b|c" "/:id/:id/:id|a|b|c/") := by decide +kernel

end Pattern

end HttpService.Routing
