import HttpService.Proofs.Text.Percent
import HttpService.Target

/-!
Contract: the path that a target names.

Owns:
- targets that are a path and nothing else, and the segments that they are read as;
- which lists of segments a path can name;
- **encoded segments are read back**, whatever texts they are.

Does not own: queries, and what rewriting makes of a path.
-/

namespace HttpService.Target

open Text

/-! ## Segments -/

theorem decodeSegment_of_not_mem {raw : List Char} (unescaped : '%' ∉ raw) :
    decodeSegment raw = .ok (String.ofList raw) := by
  have whole : Percent.isWellFormed (Utf8.encode (String.ofList raw)) = true := by
    rw [Percent.isWellFormed_encode, String.toList_ofList]
    exact Percent.isWhole_of_not_mem unescaped
  have decoded : Percent.decode (Utf8.encode (String.ofList raw)) =
      Utf8.encode (String.ofList raw) := by
    have kept := Percent.decode_spell_append unescaped []
    rw [List.append_nil] at kept
    rw [Utf8.encode_eq_spell, String.toList_ofList, kept]
    exact List.append_nil _
  unfold decodeSegment
  simp only
  rw [if_pos whole, decoded, Utf8.decode?_encode]

theorem decodeSegment_encode (segment : String) :
    decodeSegment (Percent.encode segment).toList = .ok segment := by
  have whole : Percent.isWellFormed (Utf8.encode (Percent.encode segment)) = true := by
    have ended := Percent.isWhole_encode segment []
    rw [List.append_nil] at ended
    rw [Percent.isWellFormed_encode, ended]
    rfl
  have decoded : Percent.decode (Utf8.encode (Percent.encode segment)) =
      Utf8.encode segment := by
    have undone := Percent.decode_spell_encode segment []
    rw [List.append_nil] at undone
    rw [Utf8.encode_eq_spell (Percent.encode segment), undone]
    exact List.append_nil _
  unfold decodeSegment
  simp only
  rw [String.ofList_toList, if_pos whole, decoded, Utf8.decode?_encode]

/-- Segments are decoded one by one. -/
theorem decodeSegments_map {α : Type} {written : α → List Char} {meant : α → String}
    {items : List α} (decoded : ∀ item ∈ items, decodeSegment (written item) = .ok (meant item)) :
    decodeSegments (items.map written) = .ok (items.map meant) := by
  induction items with
  | nil => rfl
  | cons item rest inductionHypothesis =>
      have further := inductionHypothesis fun other member =>
        decoded other (List.mem_cons_of_mem item member)
      rw [List.map_cons, decodeSegments, decoded item List.mem_cons_self]
      simp only [further]
      rfl

/-! ## Paths -/

theorem rawSegments_slash (path : List Char) : rawSegments ('/' :: path) = path.splitOn '/' := by
  unfold rawSegments
  rw [List.splitOn_cons_eq_if_modifyHead, if_pos (beq_self_eq_true '/')]

/-- The characters of a target that is a path and nothing else. -/
structure IsPath (path : List Char) : Prop where
  noFragment : '#' ∉ path
  noQuery : '?' ∉ path
  noControl : ∀ c ∈ path, isControl c = false

/-- The target that names a path, as it has been written. -/
def ofPath (path : List String) (written : String) : Target :=
  ⟨path, none, written, false, [], .empty⟩

/-- A target that is a path and nothing else is read segment by segment. -/
theorem parse_of_isPath {raw : String} (named : raw ≠ "*") (isPath : IsPath raw.toList) :
    parse raw = (decodeSegments (rawSegments raw.toList)).map fun segments =>
      ofPath (normalize segments) (withSlash raw.toList) := by
  have kept : before '#' raw.toList = raw.toList := before_eq_self isPath.noFragment
  have uncontrolled : raw.toList.any isControl = false := by
    rw [List.any_eq_false]
    intro c member
    rw [isPath.noControl c member]
    decide
  have uncut : cut? '?' raw.toList = none := cut?_eq_none_iff.mpr isPath.noQuery
  unfold parse
  simp only
  rw [if_neg named, kept, uncontrolled, if_neg (by decide), uncut]
  cases decodeSegments (rawSegments raw.toList) with
  | error error => rfl
  | ok segments => rfl

/-! ## Normal lists of segments -/

section

variable {segments : List String}

theorem normalize_of_forall_empty (empty : ∀ segment ∈ segments, segment = "") :
    normalize segments = [] := by
  unfold normalize
  rw [if_pos (by simpa using empty)]

theorem normalize_of_last (named : segments.getLast? ≠ some "") :
    normalize segments = segments := by
  unfold normalize
  rw [if_neg named]
  split
  · rename_i empty
    cases last : segments.getLast? with
    | none => exact (List.getLast?_eq_none_iff.mp last).symm
    | some segment =>
        have blank : segment = "" := by
          simpa using List.all_eq_true.mp empty segment (List.mem_of_getLast? last)
        exact absurd (blank ▸ last) named
  · rfl

theorem normalize_concat_empty (filled : ∃ segment ∈ segments, segment ≠ "") :
    normalize (segments ++ [""]) = segments := by
  obtain ⟨segment, member, named⟩ := filled
  have notAll : ¬ (segments ++ [""]).all (·.isEmpty) = true := by
    intro all
    have blank := List.all_eq_true.mp all segment (List.mem_append_left _ member)
    exact named (by simpa using blank)
  unfold normalize
  rw [if_neg notAll, List.getLast?_concat, if_pos rfl, List.dropLast_concat]

/-- A normal list has a segment that is not empty, unless it has none at all. -/
theorem exists_ne_of_normalize (kept : normalize segments ≠ []) :
    ∃ segment ∈ normalize segments, segment ≠ "" := by
  have filled : ∃ segment ∈ segments, segment ≠ "" := by
    by_cases empty : ∀ segment ∈ segments, segment = ""
    · exact absurd (normalize_of_forall_empty empty) kept
    · simpa using empty
  by_cases last : segments.getLast? = some ""
  · obtain ⟨front, rfl⟩ := List.getLast?_eq_some_iff.mp last
    obtain ⟨segment, member, named⟩ := filled
    have inFront : segment ∈ front :=
      (List.mem_append.mp member).resolve_right fun blank => named (List.mem_singleton.mp blank)
    rw [normalize_concat_empty ⟨segment, inFront, named⟩]
    exact ⟨segment, inFront, named⟩
  · rwa [normalize_of_last last]

end

/-- The path of every target that is read is a normal list. -/
theorem exists_ne_of_parse {raw : String} {target : Target} (parsed : parse raw = .ok target)
    (kept : target.path ≠ []) : ∃ segment ∈ target.path, segment ≠ "" := by
  unfold parse at parsed
  split at parsed
  · cases parsed
    exact absurd rfl kept
  · simp only at parsed
    split at parsed
    · cases parsed
    · split at parsed
      · cases parsed
      · split at parsed
        · cases parsed
        · cases parsed
          exact exists_ne_of_normalize kept

/-! ## Encoded segments -/

theorem toList_joinPath (segments : List String) :
    (joinPath segments).toList = '/' :: ['/'].intercalate (segments.map String.toList) := by
  unfold joinPath
  rw [String.toList_append, String.toList_intercalate]
  rfl

/-- A slash at the end of a path is an empty segment behind the others. -/
theorem joinPath_concat_empty {segments : List String} (filled : segments ≠ []) :
    joinPath (segments ++ [""]) = joinPath segments ++ "/" := by
  apply String.toList_injective
  rw [String.toList_append, toList_joinPath, toList_joinPath, List.map_append, List.cons_append]
  exact congrArg _ (intercalate_concat (by simpa using filled) [])

/-- The path that some segments are written as, everything in them escaped but ASCII letters and
digits. -/
def encodedPath (segments : List String) : String :=
  joinPath (segments.map Percent.encode)

theorem isControl_of_isAlphanum {c : Char} (plain : c.isAlphanum = true) : isControl c = false := by
  unfold Char.isAlphanum Char.isAlpha Char.isUpper Char.isLower Char.isDigit at plain
  simp only [Bool.or_eq_true, Bool.and_eq_true, decide_eq_true_eq, ge_iff_le,
    UInt32.le_iff_toNat_le] at plain
  have values : ('A'.val.toNat = 65 ∧ 'Z'.val.toNat = 90) ∧ ('a'.val.toNat = 97 ∧ 'z'.val.toNat = 122) ∧
      '0'.val.toNat = 48 ∧ '9'.val.toNat = 57 := by decide
  unfold isControl
  rw [Bool.or_eq_false_iff, decide_eq_false_iff_not, decide_eq_false_iff_not]
  show ¬ c.val.toNat < 32 ∧ ¬ c.val.toNat = 127
  omega

theorem isPath_encodedPath (segments : List String) : IsPath (encodedPath segments).toList := by
  have members : ∀ c ∈ (encodedPath segments).toList, c = '/' ∨ c = '%' ∨ c.isAlphanum = true := by
    intro c member
    unfold encodedPath at member
    rw [toList_joinPath, List.map_map] at member
    rcases List.mem_cons.mp member with slash | later
    · exact .inl slash
    · rcases mem_intercalate later with slash | ⟨piece, written, inside⟩
      · exact .inl slash
      · obtain ⟨segment, _, rfl⟩ := List.mem_map.mp written
        exact .inr (Percent.mem_encode inside)
  constructor
  · intro member
    rcases members _ member with other | other | other <;> cases other
  · intro member
    rcases members _ member with other | other | other <;> cases other
  · intro c member
    rcases members c member with rfl | rfl | plain
    · rfl
    · rfl
    · exact isControl_of_isAlphanum plain

/-- Encoded segments are decoded one by one, whatever texts they are. -/
theorem parse_encodedPath_eq {segments : List String} (filled : segments ≠ []) :
    parse (encodedPath segments) =
      .ok (ofPath (normalize segments) (encodedPath segments)) := by
  let pieces := segments.map fun segment => (Percent.encode segment).toList
  have chars : (encodedPath segments).toList = '/' :: ['/'].intercalate pieces := by
    unfold encodedPath
    rw [toList_joinPath, List.map_map]
    rfl
  have unslashed : ∀ piece ∈ pieces, '/' ∉ piece := by
    intro piece member
    obtain ⟨segment, _, rfl⟩ := List.mem_map.mp member
    exact Percent.not_mem_encode (by decide) (by decide) segment
  have raw : rawSegments (encodedPath segments).toList = pieces := by
    rw [chars, rawSegments_slash]
    exact List.splitOn_intercalate '/' unslashed (by simpa [pieces] using filled)
  have decoded : decodeSegments pieces = .ok (segments.map id) :=
    decodeSegments_map fun segment _ => decodeSegment_encode segment
  have named : encodedPath segments ≠ "*" := by
    intro same
    rw [same] at chars
    cases chars
  have written : withSlash (encodedPath segments).toList = encodedPath segments := by
    unfold withSlash
    rw [chars]
    simp only
    rw [← chars, String.ofList_toList]
  rw [parse_of_isPath named (isPath_encodedPath segments), raw, decoded, List.map_id, written]
  rfl

/-- **Reading undoes the encoding of segments.** Any segments, the last of which is not empty, are
read back from the path that they are written as: nothing else is read from it, and it is kept as
it is written. A slash behind them does not count. -/
theorem parse_encodedPath {segments : List String} (named : segments.getLast? ≠ some "") :
    parse (encodedPath segments) = .ok (ofPath segments (encodedPath segments)) ∧
      (segments ≠ [] → parse (encodedPath segments ++ "/") =
        .ok (ofPath segments (encodedPath segments ++ "/"))) := by
  have encodedEmpty : Percent.encode "" = "" := rfl
  constructor
  · by_cases filled : segments = []
    · -- The root is written as the path of one empty segment.
      have root : encodedPath [] = encodedPath [""] := rfl
      rw [filled, root, parse_encodedPath_eq (by simp)]
      rfl
    · rw [parse_encodedPath_eq filled, normalize_of_last named]
  · intro filled
    have shape : encodedPath (segments ++ [""]) = encodedPath segments ++ "/" := by
      unfold encodedPath
      rw [List.map_append, List.map_singleton, encodedEmpty]
      exact joinPath_concat_empty (by simpa using filled)
    have last := List.getLast?_eq_some_getLast filled
    have lastNamed : ∃ segment ∈ segments, segment ≠ "" := by
      refine ⟨segments.getLast filled, List.getLast_mem filled, ?_⟩
      intro blank
      exact named (blank ▸ last)
    rw [← shape, parse_encodedPath_eq (by simp), normalize_concat_empty lastNamed]

theorem parse_encodedPath_reserved :
    ["a/b", "", "100%?", "é"].getLast? ≠ some "" ∧
      encodedPath ["a/b", "", "100%?", "é"] = "/a%2Fb//100%25%3F/%C3%A9" ∧
      parse "/a%2Fb//100%25%3F/%C3%A9" =
        .ok (ofPath ["a/b", "", "100%?", "é"] "/a%2Fb//100%25%3F/%C3%A9") ∧
      parse "/a%2Fb//100%25%3F/%C3%A9/" =
        .ok (ofPath ["a/b", "", "100%?", "é"] "/a%2Fb//100%25%3F/%C3%A9/") := by
  have named : ["a/b", "", "100%?", "é"].getLast? ≠ some "" := by decide
  have written : encodedPath ["a/b", "", "100%?", "é"] = "/a%2Fb//100%25%3F/%C3%A9" := by
    decide +kernel
  obtain ⟨whole, slashed⟩ := parse_encodedPath named
  rw [written] at whole slashed
  exact ⟨named, written, whole, slashed (by simp)⟩

end HttpService.Target
