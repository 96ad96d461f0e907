import HttpService.Proofs.Query.Forms
import HttpService.Proofs.Targets.Paths
import HttpService.Proofs.Text.Escapes

/-!
Contract: which texts are targets, and what they are read as.

Owns:
- the path and the query of a target as they are written;
- the grammar of targets, and the path that the pieces between the slashes name;
- what reading a target comes to, step by step;
- **that exactly the texts of the grammar are read**, as the path that they name.

Does not own: the parameters of a query, and the target `*`.
-/

namespace HttpService.Target

open Text

/-! ## Written targets -/

/-- The path of a target as it is written, in front of the first `?`. -/
def writtenPath (written : List Char) : List Char :=
  before '?' written

/-- The query of a target as it is written, behind the first `?`. -/
def writtenQuery? (written : List Char) : Option (List Char) :=
  (cut? '?' written).map Prod.snd

/-- The pieces between the slashes of a path. -/
def pieces (written : List Char) : List (List Char) :=
  (writtenPath written).splitOn '/'

/-- A piece stands for a segment if its escapes spell the octets of the segment. -/
def Names (piece : List Char) (segment : String) : Prop :=
  Percent.StandsFor piece (Utf8.encode segment)

/-- The texts that are targets, their fragments apart: no control characters, at most one `?`, two
digits behind every `%`, and pieces that stand for text. -/
structure Grammatical (written : List Char) : Prop where
  shown : ∀ byte ∈ Utf8.spell written, 0x20 ≤ byte ∧ byte ≠ 0x7F
  single : written.count '?' ≤ 1
  escaped : Percent.Whole written
  spelled : ∀ piece ∈ pieces written, ∃ segment, Names piece segment

/-- The path that some segments name: none if all are empty, and otherwise all of them but an empty
first one, and then but one empty last one. -/
def namedPath (segments : List String) : List String :=
  if ∀ segment ∈ segments, segment = "" then [] else dropTrail "" (dropLead "" segments)

/-- What a target is read as. -/
structure Reads (written : List Char) (target : Target) : Prop where
  path : ∃ segments, List.Forall₂ Names (pieces written) segments ∧
    target.edgePath = namedPath segments
  rawPath : target.rawPath.toList =
    if (writtenPath written).head? = some '/' then writtenPath written
    else '/' :: writtenPath written
  unrewritten : target.rewrittenPath = none
  named : target.isAsterisk = false
  uncaptured : target.pathParams = []

/-! ## Segments -/

section

variable {piece : List Char} {segment : String}

theorem decodeSegment_eq_ok_iff : decodeSegment piece = .ok segment ↔ Names piece segment := by
  have spelled : Utf8.encode (String.ofList piece) = Utf8.spell piece := by
    rw [Utf8.encode_eq_spell, String.toList_ofList]
  unfold decodeSegment Names
  simp only [spelled]
  rw [Percent.standsFor_iff, Percent.isWellFormed_spell]
  cases Percent.isWhole piece with
  | false => simp
  | true =>
      rw [if_pos rfl]
      cases decoded : Utf8.decode? (Percent.decode (Utf8.spell piece)) with
      | none =>
          simp only [true_and]
          constructor
          · nofun
          · intro same
            rw [same, Utf8.decode?_encode] at decoded
            cases decoded
      | some text =>
          rw [← Utf8.encode_of_decode? decoded]
          simp only [Except.ok.injEq, true_and]
          constructor
          · rintro rfl
            rfl
          · intro same
            have back := Utf8.decode?_encode text
            rw [same, Utf8.decode?_encode] at back
            exact (Option.some.inj back).symm

/-- A piece is empty if the segment is. -/
theorem Names.eq_nil_iff (names : Names piece segment) : piece = [] ↔ segment = "" := by
  rw [← Percent.StandsFor.eq_nil_iff names, Utf8.encode_eq_spell, Utf8.spell_eq_nil_iff,
    String.toList_eq_nil_iff]

end

theorem decodeSegments_eq_ok_iff {raws : List (List Char)} {segments : List String} :
    decodeSegments raws = .ok segments ↔ List.Forall₂ Names raws segments := by
  induction raws generalizing segments with
  | nil => simp [decodeSegments, eq_comm]
  | cons raw rest inductionHypothesis =>
      rw [decodeSegments, List.forall₂_cons_left_iff]
      simp only [← decodeSegment_eq_ok_iff, ← inductionHypothesis]
      cases decodeSegment raw with
      | error error => simp
      | ok segment =>
          cases decodeSegments rest with
          | error error => simp
          | ok further => simp [eq_comm]

theorem exists_segments {raws : List (List Char)}
    (each : ∀ raw ∈ raws, ∃ segment, Names raw segment) :
    ∃ segments, List.Forall₂ Names raws segments := by
  induction raws with
  | nil => exact ⟨[], .nil⟩
  | cons raw rest inductionHypothesis =>
      obtain ⟨segment, names⟩ := each raw List.mem_cons_self
      obtain ⟨segments, further⟩ := inductionHypothesis fun other member =>
        each other (List.mem_cons_of_mem raw member)
      exact ⟨segment :: segments, .cons names further⟩

/-! ## Empty pieces -/

theorem rawSegments_eq (path : List Char) : rawSegments path = dropLead [] (path.splitOn '/') := by
  unfold rawSegments
  cases path.splitOn '/' with
  | nil => rfl
  | cons piece rest =>
      cases piece with
      | nil => rfl
      | cons c piece => rfl

/-- An empty first piece may be left out before the others are decoded, or afterwards. -/
theorem exists_dropLead {raws : List (List Char)} {decoded : List String}
    (each : List.Forall₂ Names (dropLead [] raws) decoded) :
    ∃ segments, List.Forall₂ Names raws segments ∧ dropLead "" segments = decoded := by
  cases raws with
  | nil =>
      cases each
      exact ⟨[], .nil, rfl⟩
  | cons raw rest =>
      by_cases empty : raw = []
      · subst empty
        exact ⟨"" :: decoded, .cons .nil each, rfl⟩
      · rw [dropLead, if_neg (by simpa using empty)] at each
        cases each with
        | cons names further =>
            refine ⟨_, .cons names further, if_neg ?_⟩
            simpa using names.eq_nil_iff.not.mp empty

theorem normalize_dropLead (segments : List String) :
    normalize (dropLead "" segments) = namedPath segments := by
  have empty : (dropLead "" segments).all (·.isEmpty) = true ↔
      ∀ segment ∈ segments, segment = "" := by
    cases segments with
    | nil => simp [dropLead]
    | cons segment rest =>
        by_cases blank : segment = ""
        · simp [dropLead, blank]
        · simp [dropLead, blank]
  unfold normalize namedPath dropTrail
  simp only [empty, beq_iff_eq]

/-! ## Steps -/

/-- The steps of reading: the path, segment by segment, and then the query. -/
theorem parse_eq {raw : String} (named : raw ≠ "*") :
    parse raw = if (before '#' raw.toList).any isControl then
        .error (.invalidTarget "control character in target")
      else
        (decodeSegments (rawSegments (writtenPath (before '#' raw.toList)))).bind fun segments =>
          (readQuery (writtenQuery? (before '#' raw.toList))).bind fun query =>
            .ok ⟨normalize segments, none, withSlash (writtenPath (before '#' raw.toList)), false, [],
              query⟩ := by
  unfold parse writtenPath writtenQuery?
  simp only
  rw [if_neg named]
  cases cut : cut? '?' (before '#' raw.toList) with
  | none =>
      rw [before_eq_self (cut?_eq_none_iff.mp cut), Option.map_none]
      simp only
      cases decodeSegments (rawSegments (before '#' raw.toList)) with
      | error error => rfl
      | ok segments =>
          cases readQuery none with
          | error error => rfl
          | ok query => rfl
  | some parts =>
      rw [before_of_cut? cut, Option.map_some]
      simp only
      cases decodeSegments (rawSegments parts.1) with
      | error error => rfl
      | ok segments =>
          cases readQuery (some parts.2) with
          | error error => rfl
          | ok query => rfl

theorem parse_eq_ok_iff {raw : String} (named : raw ≠ "*") {target : Target} :
    parse raw = .ok target ↔ (before '#' raw.toList).any isControl = false ∧
      ∃ segments query,
        decodeSegments (rawSegments (writtenPath (before '#' raw.toList))) = .ok segments ∧
          readQuery (writtenQuery? (before '#' raw.toList)) = .ok query ∧
            target = ⟨normalize segments, none, withSlash (writtenPath (before '#' raw.toList)), false,
              [], query⟩ := by
  rw [parse_eq named]
  generalize before '#' raw.toList = written
  cases written.any isControl with
  | true => simp
  | false =>
      rw [if_neg (by decide), eq_self, true_and]
      cases decodeSegments (rawSegments (writtenPath written)) with
      | error error => simp [Except.bind]
      | ok segments =>
          cases readQuery (writtenQuery? written) with
          | error error => simp [Except.bind]
          | ok query => simp [Except.bind, eq_comm]

theorem any_isControl_iff {written : List Char} :
    written.any isControl = false ↔ ∀ byte ∈ Utf8.spell written, 0x20 ≤ byte ∧ byte ≠ 0x7F := by
  rw [List.any_eq_false]
  constructor
  · intro shown byte member
    obtain ⟨c, held, inside⟩ := List.mem_flatMap.mp member
    have value : 0x20 ≤ byte.toNat ∧ byte.toNat ≠ 0x7F := by
      by_cases ascii : c.toNat < 128
      · rw [Utf8.utf8EncodeChar_of_ascii ascii, List.mem_singleton] at inside
        have uncontrolled := shown c held
        simp only [isControl, Bool.or_eq_true, decide_eq_true_eq, not_or] at uncontrolled
        rw [inside, Utf8.octet_toNat ascii]
        omega
      · have wide := Utf8.le_of_mem_utf8EncodeChar ascii inside
        omega
    refine ⟨UInt8.le_iff_toNat_le.mpr value.1, ?_⟩
    rintro rfl
    exact value.2 rfl
  · intro shown c held control
    simp only [isControl, Bool.or_eq_true, decide_eq_true_eq] at control
    have ascii : c.toNat < 128 := by omega
    obtain ⟨low, high⟩ := shown (Utf8.octet c) ((Utf8.octet_mem_spell ascii).mpr held)
    have value := Utf8.octet_toNat ascii
    have least : 0x20 ≤ (Utf8.octet c).toNat := UInt8.le_iff_toNat_le.mp low
    have other : (Utf8.octet c).toNat ≠ 0x7F := fun same => high (UInt8.toNat_inj.mp same)
    omega

theorem exists_readQuery_iff {raw? : Option (List Char)} :
    (∃ query, readQuery raw? = .ok query) ↔
      ∀ raw, raw? = some raw → '?' ∉ raw ∧ Percent.isWhole raw = true := by
  cases raw? with
  | none => exact ⟨fun _ => nofun, fun _ => ⟨.empty, rfl⟩⟩
  | some raw =>
      have readable : Query.isReadable (String.ofList raw) = true ↔
          '?' ∉ raw ∧ Percent.isWhole raw = true := by
        unfold Query.isReadable
        rw [Percent.isWellFormed_encode, String.toList_ofList]
        simp
      simp only [Option.some.injEq, forall_eq', ← readable]
      show (∃ query, Query.empty.extend (String.ofList raw) = .ok query) ↔ _
      unfold Query.extend
      cases Query.isReadable (String.ofList raw) with
      | false => simp
      | true => simp

/-! ## The grammar -/

section

variable {written : List Char}

/-- A target is its path, and what stands behind the first `?`. -/
theorem path_or_query (written : List Char) :
    (writtenQuery? written = none ∧ writtenPath written = written ∧ '?' ∉ written) ∨
      ∃ query, writtenQuery? written = some query ∧
        written = writtenPath written ++ '?' :: query ∧ '?' ∉ writtenPath written := by
  unfold writtenQuery? writtenPath
  cases cut : cut? '?' written with
  | none =>
      have absent := cut?_eq_none_iff.mp cut
      exact .inl ⟨rfl, before_eq_self absent, absent⟩
  | some parts =>
      obtain ⟨path, query⟩ := parts
      have front := before_of_cut? cut
      rw [front]
      exact .inr ⟨query, rfl, eq_append_of_cut? cut, not_mem_of_cut? cut⟩

theorem count_le_one_iff :
    written.count '?' ≤ 1 ↔ ∀ query, writtenQuery? written = some query → '?' ∉ query := by
  rcases path_or_query written with ⟨none, -, absent⟩ | ⟨query, some, shape, absent⟩
  · rw [none, List.count_eq_zero.mpr absent]
    simp
  · have counted : written.count '?' = query.count '?' + 1 := by
      rw [shape, List.count_append, List.count_cons_self, List.count_eq_zero.mpr absent, Nat.zero_add]
    rw [some, counted]
    simp only [Option.some.injEq, forall_eq', ← List.count_eq_zero (a := '?') (l := query)]
    omega

theorem isWhole_written_iff :
    Percent.isWhole written = true ↔ Percent.isWhole (writtenPath written) = true ∧
      ∀ query, writtenQuery? written = some query → Percent.isWhole query = true := by
  rcases path_or_query written with ⟨none, same, -⟩ | ⟨query, some, shape, -⟩
  · rw [none, same]
    simp
  · have parted := Percent.isWhole_append_cons (c := '?') rfl (by decide) (writtenPath written) query
    rw [← shape] at parted
    rw [parted, some, Bool.and_eq_true]
    simp

/-- A path whose pieces stand for text has no torn escape. -/
theorem isWhole_writtenPath (spelled : ∀ piece ∈ pieces written, ∃ segment, Names piece segment) :
    Percent.isWhole (writtenPath written) = true := by
  rw [Percent.isWhole_splitOn (c := '/') rfl (by decide), List.all_eq_true]
  intro piece member
  obtain ⟨segment, names⟩ := spelled piece member
  exact names.isWhole

/-- The segments of a path can be read if the pieces stand for text. -/
theorem exists_decodeSegments_iff :
    (∃ segments, decodeSegments (rawSegments (writtenPath written)) = .ok segments) ↔
      ∀ piece ∈ pieces written, ∃ segment, Names piece segment := by
  rw [rawSegments_eq]
  constructor
  · rintro ⟨decoded, read⟩ piece member
    obtain ⟨segments, each, -⟩ := exists_dropLead (decodeSegments_eq_ok_iff.mp read)
    obtain ⟨index, small, rfl⟩ := List.getElem_of_mem member
    have inside : index < segments.length := each.length_eq ▸ small
    exact ⟨segments[index], List.Forall₂.get each small inside⟩
  · intro each
    obtain ⟨segments, names⟩ := exists_segments fun raw member =>
      each raw ((dropLead_sublist [] (pieces written)).subset member)
    exact ⟨segments, decodeSegments_eq_ok_iff.mpr names⟩

theorem exists_parse_iff {raw : String} (named : raw ≠ "*") :
    (∃ target, parse raw = .ok target) ↔ Grammatical (before '#' raw.toList) := by
  simp only [parse_eq_ok_iff named]
  generalize before '#' raw.toList = written
  constructor
  · rintro ⟨_, shown, segments, query, path, asked, -⟩
    have spelled := exists_decodeSegments_iff.mp ⟨segments, path⟩
    have readable := exists_readQuery_iff.mp ⟨query, asked⟩
    refine ⟨any_isControl_iff.mp shown, count_le_one_iff.mpr fun raw held => (readable raw held).1,
      Percent.isWhole_iff.mp (isWhole_written_iff.mpr ⟨isWhole_writtenPath spelled, ?_⟩), spelled⟩
    exact fun raw held => (readable raw held).2
  · intro grammatical
    have whole := (isWhole_written_iff.mp (Percent.isWhole_iff.mpr grammatical.escaped)).2
    have single := count_le_one_iff.mp grammatical.single
    obtain ⟨segments, path⟩ := exists_decodeSegments_iff.mpr grammatical.spelled
    obtain ⟨query, asked⟩ := exists_readQuery_iff.mpr fun raw held =>
      ⟨single raw held, whole raw held⟩
    exact ⟨_, any_isControl_iff.mpr grammatical.shown, segments, query, path, asked, rfl⟩

end

theorem toList_withSlash (path : List Char) :
    (withSlash path).toList = if path.head? = some '/' then path else '/' :: path := by
  unfold withSlash
  split
  · simp
  · rename_i other
    rw [if_neg, String.toList_ofList]
    intro first
    obtain ⟨rest, rfl⟩ := List.head?_eq_some_iff.mp first
    exact other rest rfl

theorem reads_of_parse {raw : String} (named : raw ≠ "*") {target : Target}
    (parsed : parse raw = .ok target) : Reads (before '#' raw.toList) target := by
  obtain ⟨-, decoded, query, path, -, rfl⟩ := (parse_eq_ok_iff named).mp parsed
  rw [rawSegments_eq, decodeSegments_eq_ok_iff] at path
  obtain ⟨segments, each, rfl⟩ := exists_dropLead path
  exact ⟨⟨segments, each, normalize_dropLead segments⟩, toList_withSlash _, rfl, rfl, rfl⟩

/-- A fragment makes no difference. -/
theorem parse_fragment {raw : String} (named : raw ≠ "*")
    (alone : String.ofList (before '#' raw.toList) ≠ "*") :
    parse (String.ofList (before '#' raw.toList)) = parse raw := by
  have kept : before '#' (before '#' raw.toList) = before '#' raw.toList :=
    before_eq_self (not_mem_before '#' raw.toList)
  unfold parse
  rw [if_neg named, if_neg alone, String.toList_ofList, kept]

/-- **Exactly the texts of the grammar are targets.** A text other than `*` is read if, in front of its
first `#`, it has no control characters, at most one `?` and no torn escapes, and if the pieces
between the slashes of its path stand for text. It is then read as the path that these pieces name,
and what is written of the path is kept, with a slash in front. What follows a `#` makes no
difference, unless nothing but `*` stands in front of it. -/
theorem parse_grammar {raw : String} (named : raw ≠ "*") :
    ((∃ target, parse raw = .ok target) ↔ Grammatical (before '#' raw.toList)) ∧
      (∀ target, parse raw = .ok target → Reads (before '#' raw.toList) target) ∧
      (String.ofList (before '#' raw.toList) ≠ "*" →
        parse (String.ofList (before '#' raw.toList)) = parse raw) :=
  ⟨exists_parse_iff named, fun _ => reads_of_parse named, parse_fragment named⟩

/-- The escapes of this target spell a slash and a letter outside ASCII, and what follows its `#` is no
part of it. -/
def marked : String := "//a%2Fb/%C3%A9/?q=%20#?%"

theorem parse_grammar_marked :
    marked ≠ "*" ∧ String.ofList (before '#' marked.toList) = "//a%2Fb/%C3%A9/?q=%20" ∧
      parse marked =
        .ok ⟨["", "a/b", "é"], none, "//a%2Fb/%C3%A9/", false, [], ⟨[("q", #[" "])]⟩⟩ ∧
      Grammatical (before '#' marked.toList) ∧
      Reads (before '#' marked.toList)
        ⟨["", "a/b", "é"], none, "//a%2Fb/%C3%A9/", false, [], ⟨[("q", #[" "])]⟩⟩ ∧
      parse "//a%2Fb/%C3%A9/?q=%20" = parse marked ∧
      -- An escape does not reach across a slash.
      "/%4/1" ≠ "*" ∧ before '#' "/%4/1".toList = "/%4/1".toList ∧ ¬ Grammatical "/%4/1".toList := by
  have named : marked ≠ "*" := by decide
  have front : String.ofList (before '#' marked.toList) = "//a%2Fb/%C3%A9/?q=%20" := by decide
  have parsed : parse marked =
      .ok ⟨["", "a/b", "é"], none, "//a%2Fb/%C3%A9/", false, [], ⟨[("q", #[" "])]⟩⟩ := by
    decide +kernel
  obtain ⟨accepted, read, cutOff⟩ := parse_grammar named
  rw [front] at cutOff
  have tornNamed : "/%4/1" ≠ "*" := by decide
  have tornFront : before '#' "/%4/1".toList = "/%4/1".toList := by decide
  have torn := (parse_grammar tornNamed).1
  rw [tornFront] at torn
  have refused : parse "/%4/1" = .error (.invalidTarget "%4") := by decide +kernel
  refine ⟨named, front, parsed, accepted.mp ⟨_, parsed⟩, read _ parsed, cutOff (by decide), tornNamed,
    tornFront, fun grammatical => ?_⟩
  obtain ⟨target, parsed⟩ := torn.mpr grammatical
  rw [refused] at parsed
  cases parsed

end HttpService.Target
