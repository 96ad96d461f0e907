import HttpService.Proofs.Headers.Stored
import HttpService.Proofs.Wire.BodyFraming

/-!
Contract: the names of the headers of a request.

Owns:
- names that can be used, and keys that leave such a name when only what may be stored is kept;
- the keys of an input, as they are written;
- that the keys of an accepted request are not empty and have no white space around them;
- **when the names of an accepted request can be used**, and a request with a name that cannot.

Does not own: the values.
-/

namespace HttpService.Wire

open Text

/-! ## Names -/

/-- What a name may neither begin nor end with. -/
def isPadding (c : Char) : Bool :=
  c == ' ' || c == '\t'

/-- A name that is not empty, and neither begins nor ends with a space or a tab. -/
structure Usable (name : String) : Prop where
  filled : name ≠ ""
  first : ∀ c, name.toList.head? = some c → isPadding c = false
  last : ∀ c, name.toList.getLast? = some c → isPadding c = false

/-- A key that holds something that may be stored, the first and the last of which is neither a space
nor a tab. -/
structure Bounded (key : List Char) : Prop where
  first : ∃ c, key.find? isFieldChar = some c ∧ isPadding c = false
  last : ∃ c, key.reverse.find? isFieldChar = some c ∧ isPadding c = false

theorem usable_sanitize_iff (name : String) : Usable (sanitize name) ↔ Bounded name.toList := by
  have kept : (sanitize name).toList = name.toList.filter isFieldChar := String.toList_ofList
  constructor
  · intro usable
    have filled : name.toList.filter isFieldChar ≠ [] := by
      intro empty
      rw [← kept, String.toList_eq_nil_iff] at empty
      exact usable.filled empty
    have first := usable.first
    have last := usable.last
    rw [kept] at first last
    have opens := List.head?_eq_some_head filled
    have closes := List.getLast?_eq_some_getLast filled
    exact ⟨⟨_, List.head?_filter ▸ opens, first _ opens⟩,
      ⟨_, List.getLast?_filter ▸ closes, last _ closes⟩⟩
  · rintro ⟨⟨c, opens, clear⟩, ⟨d, closes, ended⟩⟩
    rw [← List.head?_filter, ← kept] at opens
    rw [← List.getLast?_filter, ← kept] at closes
    refine ⟨?_, ?_, ?_⟩
    · intro empty
      rw [empty] at opens
      cases opens
    · intro other first
      rw [opens, Option.some.injEq] at first
      exact first ▸ clear
    · intro other last
      rw [closes, Option.some.injEq] at last
      exact last ▸ ended

theorem isPadding_eq_false_of_le {c : Char} (large : 65 ≤ c.val.toNat) : isPadding c = false := by
  unfold isPadding
  rw [Bool.or_eq_false_iff, beq_eq_false_iff_ne, beq_eq_false_iff_ne]
  constructor
  · rintro rfl
    exact absurd large (by decide)
  · rintro rfl
    exact absurd large (by decide)

theorem isPadding_toLower (c : Char) : isPadding c.toLower = isPadding c := by
  unfold Char.toLower
  split
  · rename_i upper
    have low : 65 ≤ c.val.toNat := UInt32.le_iff_toNat_le.mp upper.1
    have high : c.val.toNat ≤ 90 := UInt32.le_iff_toNat_le.mp upper.2
    have shift : ('a'.val - 'A'.val).toNat = 32 := by decide
    rw [isPadding_eq_false_of_le low, isPadding_eq_false_of_le]
    rw [UInt32.toNat_add, shift]
    omega
  · rfl

/-- Casing does not count for the use of a name. -/
theorem usable_foldCase_iff (name : String) : Usable (foldCase name) ↔ Usable name := by
  have folded : (foldCase name).toList = name.toList.map Char.toLower := String.toList_ofList
  have filled : foldCase name ≠ "" ↔ name ≠ "" := by
    rw [Ne, ← String.toList_eq_nil_iff, folded, List.map_eq_nil_iff, String.toList_eq_nil_iff]
  have ends : ∀ end? : Option Char,
      (∀ c, end?.map Char.toLower = some c → isPadding c = false) ↔
        ∀ c, end? = some c → isPadding c = false := by
    intro end?
    cases end? with
    | none => simp
    | some c => simp [isPadding_toLower]
  constructor
  · rintro ⟨named, first, last⟩
    rw [folded, List.head?_map] at first
    rw [folded, List.getLast?_map] at last
    exact ⟨filled.mp named, (ends _).mp first, (ends _).mp last⟩
  · rintro ⟨named, first, last⟩
    refine ⟨filled.mpr named, ?_, ?_⟩
    · rw [folded, List.head?_map]
      exact (ends _).mpr first
    · rw [folded, List.getLast?_map]
      exact (ends _).mpr last

theorem Usable.of_foldCase {first second : String} (same : foldCase first = foldCase second)
    (usable : Usable first) : Usable second := by
  rw [← usable_foldCase_iff, ← same, usable_foldCase_iff]
  exact usable

/-! ## Keys -/

/-- The header lines of an input: those behind the first line, up to an empty one. -/
def headerLines (input : Bytes) : List Bytes :=
  ((linesOf (some input)).drop 1).takeWhile (· ≠ [])

/-- What stands in front of the first colon of a line. -/
def lineKey? (line : Bytes) : Option (List Char) :=
  (Utf8.decode? line).bind fun text => (cut? ':' text.toList).map Prod.fst

/-- The keys of the header lines of an input, as they are written. -/
def headerKeys (input : Bytes) : List (List Char) :=
  (headerLines input).filterMap lineKey?

/-- A key that is not empty, and has no white space around it. -/
structure Unpadded (key : List Char) : Prop where
  filled : key ≠ []
  trimmed : trim key = key

/-- The name that is read from a line is its key. -/
theorem key_of_isField {line : String} {field : String × String} (read : IsField line field) :
    lineKey? (Utf8.encode line) = some field.1.toList ∧ Unpadded field.1.toList := by
  unfold IsField readField at read
  unfold lineKey?
  rw [Utf8.decode?_encode] at read ⊢
  rw [Option.bind_some]
  cases cut : cut? ':' line.toList with
  | none =>
      simp only [cut] at read
      cases read
  | some parts =>
      obtain ⟨name, value⟩ := parts
      simp only [cut] at read
      by_cases refused : name = [] ∨ trim name ≠ name
      · rw [if_pos refused] at read
        cases read
      · rw [if_neg refused] at read
        cases read
        rw [not_or, not_not] at refused
        simp only [String.toList_ofList]
        exact ⟨rfl, refused.1, refused.2⟩

theorem linesOf_behind (behind : Bytes) (more : List Bytes) : ∀ first : Bytes, Unbroken first →
    (∀ line ∈ more, Unbroken line) →
    linesOf (some (joined first more ++ crlf ++ behind)) = first :: more ++ linesOf (some behind) := by
  induction more with
  | nil =>
      intro first unbroken _
      rw [joined_nil, linesOf_line behind unbroken]
      rfl
  | cons line more inductionHypothesis =>
      intro first unbroken lines
      have shape : joined first (line :: more) ++ crlf ++ behind =
          first ++ crlf ++ (joined line more ++ crlf ++ behind) := by
        simp only [joined_cons, List.append_assoc]
      rw [shape, linesOf_line _ unbroken,
        inductionHypothesis line (lines line List.mem_cons_self)
          fun other member => lines other (List.mem_cons_of_mem line member)]
      rfl

theorem Parted.headerLines_eq {input behind : Bytes} {first : String} {lines : List String}
    {headers : Headers} (parted : Parted input first lines headers behind)
    (ends : ∃ rest, linesOf (some behind) = [] :: rest) :
    headerLines input = lines.map Utf8.encode := by
  have each : ∀ line ∈ lines.map Utf8.encode, Unbroken line ∧ line ≠ [] := by
    intro line member
    obtain ⟨text, inside, rfl⟩ := List.mem_map.mp member
    exact parted.linesFilled text inside
  obtain ⟨rest, ended⟩ := ends
  unfold headerLines
  rw [parted.whole, linesOf_behind behind _ _ parted.firstUnbroken fun line member => (each line member).1,
    ended, List.cons_append, List.drop_one, List.tail_cons,
    List.takeWhile_append_of_pos fun line member => by simpa using (each line member).2]
  simp

/-- The header lines of an accepted request are read as fields, one by one. -/
theorem exists_fields_of_readRequest {input : Bytes} {maxBody : Nat} {request : Request}
    (read : readRequest input maxBody = .ok request) :
    ∃ fields, request.headers = Headers.ofFields fields ∧
      headerKeys input = fields.map (·.1.toList) ∧ ∀ key ∈ headerKeys input, Unpadded key := by
  obtain ⟨method, target, headers, available, first, held, bodied⟩ := parts_of_readRequest read
  obtain ⟨body, made, _⟩ := body_of_readBodied bodied
  obtain ⟨line, lines, behind, parted, ends⟩ := exists_parted first held
  have ended : ∃ rest, linesOf (some behind) = [] :: rest := by
    rcases ends with rfl | ⟨rfl, _⟩
    · exact ⟨linesOf (some available), linesOf_line available unbroken_nil⟩
    · exact ⟨[], linesOf_unbroken unbroken_nil⟩
  obtain ⟨fields, alike, stored⟩ := parted.fields
  have keys : (lines.map Utf8.encode).filterMap lineKey? = fields.map (·.1.toList) ∧
      ∀ field ∈ fields, Unpadded field.1.toList := by
    clear stored parted
    induction alike with
    | nil => exact ⟨rfl, List.forall_mem_nil _⟩
    | cons field _ inductionHypothesis =>
        obtain ⟨key, unpadded⟩ := key_of_isField field
        obtain ⟨same, each⟩ := inductionHypothesis
        rw [List.map_cons, List.filterMap_cons, key, same]
        exact ⟨rfl, List.forall_mem_cons.mpr ⟨unpadded, each⟩⟩
  refine ⟨fields, ?_, ?_⟩
  · rw [made, ← stored]
    rfl
  · unfold headerKeys
    rw [parted.headerLines_eq ended, keys.1]
    exact ⟨rfl, List.forall_mem_map.mpr keys.2⟩

/-! ## Names of an accepted request -/

/-- A key whose ends are stored is a name that can be used. -/
theorem Unpadded.bounded {key : List Char} (unpadded : Unpadded key)
    (stored : key.head?.all isFieldChar = true ∧ key.getLast?.all isFieldChar = true) :
    Bounded key := by
  obtain ⟨filled, trimmed⟩ := unpadded
  obtain ⟨opens, closes⟩ := ends_of_trim_eq_self trimmed
  have clear : ∀ c, isBlank c = false → isPadding c = false := by
    intro c visible
    unfold isPadding
    rw [Bool.or_eq_false_iff, beq_eq_false_iff_ne, beq_eq_false_iff_ne]
    constructor
    · rintro rfl
      cases visible
    · rintro rfl
      cases visible
  have first := List.head?_eq_some_head filled
  have last := List.getLast?_eq_some_getLast filled
  rw [first, last, Option.all_some, Option.all_some] at stored
  have found : ∀ {chars : List Char} {c : Char}, chars.head? = some c → isFieldChar c = true →
      chars.find? isFieldChar = some c := by
    intro chars c head storable
    obtain ⟨rest, rfl⟩ := List.head?_eq_some_iff.mp head
    exact List.find?_cons_of_pos storable
  have final : key.reverse.head? = some (key.getLast filled) := List.head?_reverse.trans last
  exact ⟨⟨_, found first stored.1, clear _ (opens _ first)⟩,
    ⟨_, found final stored.2, clear _ (closes _ last)⟩⟩

/-- **When the names of an accepted request can be used.** No key of an accepted request is empty or
has white space around it, as it is written. The names, in which only printable ASCII and tabs are
kept, can be used exactly if every key holds such characters and the first and the last of them are
neither spaces nor tabs. This is so if every key begins and ends with such a character. -/
theorem names_usable_iff {input : Bytes} {maxBody : Nat} {request : Request}
    (read : readRequest input maxBody = .ok request) :
    (∀ key ∈ headerKeys input, Unpadded key) ∧
      ((∀ field ∈ request.headers.toList, Usable field.1) ↔
        ∀ key ∈ headerKeys input, Bounded key) ∧
      ((∀ key ∈ headerKeys input,
          key.head?.all isFieldChar = true ∧ key.getLast?.all isFieldChar = true) →
        ∀ field ∈ request.headers.toList, Usable field.1) := by
  obtain ⟨fields, held, keys, unpadded⟩ := exists_fields_of_readRequest read
  have usable : (∀ field ∈ request.headers.toList, Usable field.1) ↔
      ∀ key ∈ headerKeys input, Bounded key := by
    rw [held, keys, List.forall_mem_map,
      Headers.forall_names_ofFields (fun _ _ same named => named.of_foldCase same)]
    exact forall₂_congr fun field _ => usable_sanitize_iff field.1
  refine ⟨unpadded, usable, fun stored => usable.mpr fun key member => ?_⟩
  exact (unpadded key member).bounded (stored key member)

/-- A request with a key in the middle of which a character is not stored. -/
def accentedInput : Bytes :=
  Utf8.encode "GET / HTTP/1.1\r\nHost: x\r\nX-é-Y:\r\n\r\n"

theorem names_usable_accented :
    ∃ request, readRequest accentedInput 8192 = .ok request ∧
      request.headers.toList = [("Host", "x"), ("X--Y", "")] ∧
      ∀ field ∈ request.headers.toList, Usable field.1 := by
  have read : readRequest accentedInput 8192 = .ok
      (Request.make .get ⟨[], none, "/", false, [], .empty⟩
        (Headers.ofFields [("Host", "x"), ("X-é-Y", "")]) []) := by
    decide +kernel
  have keys : headerKeys accentedInput = ["Host".toList, "X-é-Y".toList] := by decide +kernel
  refine ⟨_, read, by decide +kernel, (names_usable_iff read).2.2 ?_⟩
  rw [keys]
  decide +kernel

/-- A request with a key that holds nothing that is stored, and one that holds a space behind such a
character. -/
def hiddenInput : Bytes :=
  Utf8.encode "GET / HTTP/1.1\r\nHost: x\r\n\x01: v\r\né k: w\r\n\r\n"

/-- It is accepted, with an empty name and with one that begins with a space. -/
theorem names_not_usable_hidden :
    ∃ request, readRequest hiddenInput 8192 = .ok request ∧
      request.headers.toList = [("Host", "x"), ("", "v"), (" k", "w")] ∧
      ¬ ∀ field ∈ request.headers.toList, Usable field.1 := by
  have read : readRequest hiddenInput 8192 = .ok
      (Request.make .get ⟨[], none, "/", false, [], .empty⟩
        (Headers.ofFields [("Host", "x"), ("\x01", "v"), ("é k", "w")]) []) := by
    decide +kernel
  have lines : (Request.make .get ⟨[], none, "/", false, [], .empty⟩
      (Headers.ofFields [("Host", "x"), ("\x01", "v"), ("é k", "w")]) []).headers.toList =
        [("Host", "x"), ("", "v"), (" k", "w")] := by
    decide +kernel
  refine ⟨_, read, lines, ?_⟩
  rw [lines]
  intro usable
  exact (usable ("", "v") (by simp)).filled rfl

end HttpService.Wire
