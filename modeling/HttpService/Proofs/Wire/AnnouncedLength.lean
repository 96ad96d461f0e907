import HttpService.Proofs.Text.Numeral
import HttpService.Proofs.Text.Trim
import HttpService.Proofs.Wire.Heads

/-!
Contract: the body length that a head announces against the one that its fields declare.

Owns:
- the length that one line announces, when it is cut at every LF and taken literally;
- the length that the same line declares, as one field and without the characters that are
  not stored;
- both lengths of a head in terms of its lines;
- lines for which they are the same, and **lines for which they differ**.

Does not own: what the readers do with these lengths.
-/

namespace HttpService.Wire

open Text
open Headers (ofFields storedValues)

/-! ## The lengths of one line -/

/-- The fields in a text that is cut at every LF. -/
def piecedFields (chars : List Char) : List (List Char × List Char) :=
  (chars.splitOn '\n').filterMap fun piece => cut? ':' (trimEndWhile (· == '\r') piece)

/-- The length that a line announces. -/
def spelled? (line : String) : Option Nat :=
  ((piecedFields line.toList).find? fun field => isLengthName field.1).map fun field =>
    (readSize? (trim field.2)).getD 0

/-- The length that a line declares once it is stored. -/
def stored? (line : String) : Option Nat :=
  match cut? ':' line.toList with
  | none => none
  | some (name, value) =>
      if isLengthName (name.filter isFieldChar) then
        some ((readSize? ((trim value).filter isFieldChar)).getD 0)
      else none

/-- The first length that lines announce. -/
def spelledLength (lines : List String) : Nat :=
  (lines.findSome? spelled?).getD 0

/-- The first length that lines declare. -/
def storedLength (lines : List String) : Nat :=
  (lines.findSome? stored?).getD 0

/-! ## The announced length of a head -/

theorem piecedFields_concat (chars : List Char) :
    piecedFields (chars ++ ['\r']) = piecedFields chars := by
  obtain ⟨front, last, pieces, grown⟩ := splitOn_concat (by decide : '\r' ≠ '\n') chars
  unfold piecedFields
  rw [pieces, grown, List.filterMap_append, List.filterMap_append, List.filterMap_cons,
    List.filterMap_cons, trimEndWhile_concat (by decide)]

theorem piecedFields_append (front back : List Char) :
    piecedFields (front ++ '\r' :: '\n' :: back) = piecedFields front ++ piecedFields back := by
  have shape : front ++ '\r' :: '\n' :: back = (front ++ ['\r']) ++ '\n' :: back := by simp
  rw [← piecedFields_concat front, shape]
  unfold piecedFields
  rw [List.splitOn_append_cons_self, List.filterMap_append]

/-- Texts with CR LF between them. -/
def joinedChars (first : String) (more : List String) : List Char :=
  first.toList ++ more.flatMap fun line => '\r' :: '\n' :: line.toList

theorem piecedFields_joinedChars (more : List String) : ∀ first : String,
    piecedFields (joinedChars first more) =
      (first :: more).flatMap fun line => piecedFields line.toList := by
  induction more with
  | nil =>
      intro first
      simp [joinedChars]
  | cons line more inductionHypothesis =>
      intro first
      have shape : joinedChars first (line :: more) =
          first.toList ++ '\r' :: '\n' :: joinedChars line more := by
        simp [joinedChars]
      rw [shape, piecedFields_append, inductionHypothesis line]
      simp only [List.flatMap_cons]

theorem joined_encode (first : String) (more : List String) :
    joined (Utf8.encode first) (more.map Utf8.encode) = Utf8.spell (joinedChars first more) := by
  have lineEnd : crlf = Utf8.spell ['\r', '\n'] := by decide
  unfold joined joinedChars
  rw [Utf8.spell_append, Utf8.encode_eq_spell, List.flatMap_map]
  congr 1
  induction more with
  | nil => rfl
  | cons line more inductionHypothesis =>
      rw [List.flatMap_cons, List.flatMap_cons, Utf8.spell_append, inductionHypothesis,
        Utf8.encode_eq_spell, lineEnd, ← Utf8.spell_append]
      rfl

theorem filterMap_headField?_spell (chars : List Char) :
    ((Utf8.spell chars).splitOn lf).filterMap headField? = piecedFields chars := by
  have cut : (Utf8.spell chars).splitOn lf = (chars.splitOn '\n').map Utf8.spell :=
    Utf8.splitOn_spell (c := '\n') (by decide) chars
  rw [cut, List.filterMap_map]
  unfold piecedFields
  congr 1
  funext piece
  show headField? (Utf8.spell piece) = _
  unfold headField?
  rw [Utf8.decode?_spell, Option.bind_some, String.toList_ofList]

theorem announcedLength_joined (first : String) (more : List String) :
    announcedLength (joined (Utf8.encode first) (more.map Utf8.encode)) =
      spelledLength (first :: more) := by
  have found : (((Utf8.spell (joinedChars first more)).splitOn lf).filterMap headField?).find?
      (fun field => isLengthName field.1) =
        (first :: more).findSome? fun line =>
          (piecedFields line.toList).find? fun field => isLengthName field.1 := by
    rw [filterMap_headField?_spell, piecedFields_joinedChars, List.find?_flatMap]
  have spelled : (first :: more).findSome? spelled? =
      ((first :: more).findSome? fun line =>
        (piecedFields line.toList).find? fun field => isLengthName field.1).map fun field =>
          (readSize? (trim field.2)).getD 0 := by
    rw [List.map_findSome?]
    rfl
  unfold announcedLength spelledLength
  rw [joined_encode, found, spelled]
  cases (first :: more).findSome? fun line =>
      (piecedFields line.toList).find? fun field => isLengthName field.1 with
  | none => rfl
  | some field => rfl

/-! ## The declared length of a head -/

theorem isLengthName_iff (name : String) :
    foldCase name = foldCase "Content-Length" ↔ isLengthName name.toList = true := by
  have folded : foldCase "Content-Length" = "content-length" := by decide
  rw [folded]
  unfold foldCase isLengthName
  rw [beq_iff_eq]
  constructor
  · intro equal
    rw [← equal, String.toList_ofList]
  · intro equal
    rw [equal, String.ofList_toList]

/-- A header line and its field declare the same length. -/
theorem stored?_of_isField {line : String} {field : String × String} (read : IsField line field) :
    stored? line =
      if foldCase (sanitize field.1) = foldCase "Content-Length" then
        some ((readSize? (sanitize field.2).toList).getD 0)
      else none := by
  unfold IsField readField at read
  rw [Utf8.decode?_encode] at read
  unfold stored?
  cases pieces : cut? ':' line.toList with
  | none =>
      simp only [pieces] at read
      cases read
  | some parts =>
      obtain ⟨name, value⟩ := parts
      simp only [pieces] at read
      by_cases refused : name = [] ∨ trim name ≠ name
      · rw [if_pos refused] at read
        cases read
      · rw [if_neg refused] at read
        cases read
        simp only [isLengthName_iff, sanitize, String.toList_ofList]

theorem contentLength_ofFields {lines : List String} {fields : List (String × String)}
    (read : List.Forall₂ IsField lines fields) :
    (ofFields fields).contentLength = storedLength lines := by
  unfold Headers.contentLength storedLength
  rw [Headers.first?_ofFields]
  induction read with
  | nil => rfl
  | @cons line field lines fields first further inductionHypothesis =>
      have declared := stored?_of_isField first
      rw [List.findSome?_cons, declared]
      by_cases same : foldCase (sanitize field.1) = foldCase "Content-Length"
      · rw [if_pos same]
        simp [storedValues, same]
      · rw [if_neg same]
        have values : storedValues "Content-Length" (field :: fields) =
            storedValues "Content-Length" fields := by
          simp [storedValues, same]
        rw [values]
        exact inductionHypothesis

/-! ## The request line -/

theorem isLengthName_of_space {name : List Char} (space : ' ' ∈ name) :
    isLengthName name = false := by
  rw [Bool.eq_false_iff]
  intro named
  unfold isLengthName at named
  rw [beq_iff_eq] at named
  have lowered : ' ' ∈ name.map Char.toLower := List.mem_map.mpr ⟨' ', space, rfl⟩
  rw [named] at lowered
  exact absurd lowered (by decide)

/-- What stands in front of the first colon of a request line begins with its method. -/
theorem space_mem_of_cut? {token : String} {rest name value : List Char}
    (noColon : ':' ∉ token.toList)
    (pieces : cut? ':' (token.toList ++ ' ' :: rest) = some (name, value)) : ' ' ∈ name := by
  have kept := bne_of_not_mem noColon
  unfold cut? at pieces
  split at pieces
  · cases pieces
  · cases pieces
    rw [List.takeWhile_append_of_pos kept]
    simp

theorem token_of_readParts {token path protocol : List Char} {method : Method} {target : Target}
    (read : readParts token path protocol = .ok (method, target)) :
    String.ofList token = method.token := by
  unfold readParts at read
  split at read
  · cases read
  · rename_i found known
    have same := List.find?_some known
    rw [beq_iff_eq] at same
    simp only at read
    split_ifs at read
    cases parsed : Target.parse (String.ofList path) with
    | error error =>
        rw [parsed] at read
        cases read
    | ok target =>
        rw [parsed] at read
        cases read
        exact same.symm

theorem start_of_readRequestLine {line : String} {method : Method} {target : Target}
    (read : readRequestLine (Utf8.encode line) = .ok (method, target)) :
    ∃ rest : List Char, line.toList = method.token.toList ++ ' ' :: rest := by
  unfold readRequestLine at read
  rw [Utf8.decode?_encode] at read
  simp only at read
  split at read
  · rename_i token path protocol pieces
    have whole : [' '].intercalate (line.toList.splitOn ' ') = line.toList :=
      List.intercalate_splitOn ' '
    refine ⟨path ++ ' ' :: protocol, ?_⟩
    rw [← token_of_readParts read, String.toList_ofList, ← whole, pieces]
    simp [List.intercalate]
  · cases read

/-- A request line declares no length. -/
theorem stored?_of_readRequestLine {line : String} {start : Method × Target}
    (read : readRequestLine (Utf8.encode line) = .ok start) : stored? line = none := by
  obtain ⟨method, target⟩ := start
  obtain ⟨rest, shape⟩ := start_of_readRequestLine read
  have noColon : ':' ∉ method.token.toList := by cases method <;> decide
  unfold stored?
  rw [shape]
  cases pieces : cut? ':' (method.token.toList ++ ' ' :: rest) with
  | none => rfl
  | some parts =>
      have space := space_mem_of_cut? noColon pieces
      have kept : ' ' ∈ parts.1.filter isFieldChar := List.mem_filter.mpr ⟨space, rfl⟩
      simp only [isLengthName_of_space kept]
      rfl

/-! ## Both lengths of a head -/

section

variable {buffer available : Bytes} {length : Nat} {first : String} {lines : List String}
  {headers : Headers}

theorem Arrived.announcedLength_eq (arrived : Arrived buffer length first lines headers available) :
    announcedLength (buffer.take length) = spelledLength (headTexts (buffer.take length)) := by
  rw [arrived.headTexts_eq, arrived.head]
  exact announcedLength_joined first lines

theorem Arrived.contentLength_eq (arrived : Arrived buffer length first lines headers available)
    {start : Method × Target} (read : readRequestLine (Utf8.encode first) = .ok start) :
    headers.contentLength = storedLength (headTexts (buffer.take length)) := by
  obtain ⟨fields, alike, held⟩ := arrived.fields
  rw [arrived.headTexts_eq, held, contentLength_ofFields alike]
  unfold storedLength
  rw [List.findSome?_cons, stored?_of_readRequestLine read]

end

/-! ## Lines on which both lengths agree -/

theorem spelled?_eq_stored? {line : String}
    (storable : ∀ c ∈ line.toList, isFieldChar c = true) : spelled? line = stored? line := by
  have noBreak : '\n' ∉ line.toList := fun member => absurd (storable '\n' member) (by decide)
  have whole : trimEndWhile (· == '\r') line.toList = line.toList := by
    apply trimEndWhile_eq_self
    intro c last
    rw [beq_eq_false_iff_ne]
    rintro rfl
    exact absurd (storable '\r' (List.mem_of_getLast? last)) (by decide)
  have pieced : piecedFields line.toList = (cut? ':' line.toList).toList := by
    unfold piecedFields
    rw [List.splitOn_eq_singleton noBreak, List.filterMap_cons, whole]
    cases cut? ':' line.toList with
    | none => rfl
    | some field => rfl
  unfold spelled? stored?
  rw [pieced]
  cases pieces : cut? ':' line.toList with
  | none => rfl
  | some field =>
      obtain ⟨name, value⟩ := field
      obtain ⟨nameInside, valueInside⟩ := cut?_sublist pieces
      have sameName : name.filter isFieldChar = name :=
        List.filter_eq_self.mpr fun c member => storable c (nameInside.subset member)
      have sameValue : (trim value).filter isFieldChar = trim value :=
        List.filter_eq_self.mpr fun c member =>
          storable c (valueInside.subset ((trim_sublist value).subset member))
      simp only [sameName, sameValue, Option.toList_some, List.find?_cons]
      cases isLengthName name with
      | false => rfl
      | true => rfl

/-- Lines that are stored as they are announce the length that they declare. -/
theorem spelledLength_eq_storedLength {lines : List String}
    (storable : ∀ line ∈ lines, ∀ c ∈ line.toList, isFieldChar c = true) :
    spelledLength lines = storedLength lines := by
  unfold spelledLength storedLength
  congr 1
  induction lines with
  | nil => rfl
  | cons line lines inductionHypothesis =>
      rw [List.findSome?_cons, List.findSome?_cons, spelled?_eq_stored? (storable line (by simp)),
        inductionHypothesis fun other member => storable other (List.mem_cons_of_mem line member)]

/-! ## Lines on which they differ -/

theorem storable_of_isDigit {c : Char} (digit : c.isDigit = true) :
    isFieldChar c = true ∧ isBlank c = false := by
  obtain ⟨low, high⟩ := Char.isDigit_iff_toNat.mp digit
  have low : 48 ≤ c.toNat := low
  have high : c.toNat ≤ 57 := high
  simp [isFieldChar, isBlank]
  omega

theorem isDigit_of_mem_toDigits {size : Nat} {c : Char} (member : c ∈ Nat.toDigits 10 size) :
    c.isDigit = true :=
  Nat.isDigit_of_mem_toDigits (by decide) (by decide) member

theorem trimEndWhile_toDigits (front : List Char) (size : Nat) :
    trimEndWhile (· == '\r') (front ++ Nat.toDigits 10 size) = front ++ Nat.toDigits 10 size := by
  apply trimEndWhile_eq_self
  intro c last
  rw [List.getLast?_append_of_ne_nil _ Nat.toDigits_ne_nil] at last
  have digit := isDigit_of_mem_toDigits (List.mem_of_getLast? last)
  rw [beq_eq_false_iff_ne]
  rintro rfl
  exact absurd digit (by decide)

/-- A length whose name is broken up by a character. -/
def splitName (c : Char) (size : Nat) : String :=
  "Content" ++ String.singleton c ++ "-Length: " ++ toString size

theorem toList_splitName (c : Char) (size : Nat) : (splitName c size).toList =
    ("Content".toList ++ c :: "-Length".toList) ++ ':' :: ' ' :: Nat.toDigits 10 size := by
  simp [splitName]

theorem spelled?_splitName {c : Char} (notColon : c ≠ ':') (size : Nat) :
    spelled? (splitName c size) = none := by
  have noBreak : '\n' ∉ Nat.toDigits 10 size :=
    fun member => absurd (isDigit_of_mem_toDigits member) (by decide)
  unfold spelled? piecedFields
  by_cases cut : c = '\n'
  · subst cut
    have pieces : (splitName '\n' size).toList.splitOn '\n' =
        ["Content".toList, "-Length".toList ++ ':' :: ' ' :: Nat.toDigits 10 size] := by
      rw [toList_splitName, List.append_assoc, List.cons_append,
        List.splitOn_append_cons_self_of_not_mem (by decide), List.splitOn_eq_singleton]
      simp [noBreak]
    have first : cut? ':' (trimEndWhile (· == '\r') "Content".toList) = none := by decide
    have ended := trimEndWhile_toDigits ("-Length".toList ++ [':', ' ']) size
    rw [List.append_assoc, List.cons_append, List.singleton_append] at ended
    rw [pieces, List.filterMap_cons, first, List.filterMap_cons, ended, cut?_append (by decide)]
    rfl
  · have pieces : (splitName c size).toList.splitOn '\n' = [(splitName c size).toList] := by
      apply List.splitOn_eq_singleton
      rw [toList_splitName]
      simp [noBreak, Ne.symm cut]
    have noColon : ':' ∉ "Content".toList ++ c :: "-Length".toList := by
      simp [Ne.symm notColon]
    have unnamed : isLengthName ("Content".toList ++ c :: "-Length".toList) = false := by
      rw [Bool.eq_false_iff]
      intro named
      unfold isLengthName at named
      rw [beq_iff_eq] at named
      have lengths := congrArg List.length named
      simp at lengths
    have ended := trimEndWhile_toDigits
      (("Content".toList ++ c :: "-Length".toList) ++ [':', ' ']) size
    rw [List.append_assoc, List.cons_append, List.singleton_append] at ended
    rw [pieces, List.filterMap_cons, toList_splitName, ended, cut?_append noColon]
    simp only [List.filterMap_nil, List.find?_cons, unnamed, List.find?_nil]
    rfl

theorem stored?_splitName {c : Char} (hidden : isFieldChar c = false) {size : Nat}
    (small : size < sizeLimit) : stored? (splitName c size) = some size := by
  have notColon : c ≠ ':' := by
    rintro rfl
    exact absurd hidden (by decide)
  have noColon : ':' ∉ "Content".toList ++ c :: "-Length".toList := by
    simp [Ne.symm notColon]
  have digits : ∀ d ∈ Nat.toDigits 10 size, isFieldChar d = true ∧ isBlank d = false :=
    fun d member => storable_of_isDigit (isDigit_of_mem_toDigits member)
  have name : ("Content".toList ++ c :: "-Length".toList).filter isFieldChar =
      "Content-Length".toList := by
    rw [List.filter_append, List.filter_cons, hidden, if_neg (by decide)]
    decide
  have value : trim (' ' :: Nat.toDigits 10 size) = Nat.toDigits 10 size := by
    rw [trim_cons_of_blank (by decide)]
    apply trim_eq_self
    · exact fun d first => (digits d (List.mem_of_head? first)).2
    · exact fun d last => (digits d (List.mem_of_getLast? last)).2
  have kept : (Nat.toDigits 10 size).filter isFieldChar = Nat.toDigits 10 size :=
    List.filter_eq_self.mpr fun d member => (digits d member).1
  have read := readSize?_toString small
  rw [Nat.toString_eq_ofList_toDigits, String.toList_ofList] at read
  unfold stored?
  rw [toList_splitName, cut?_append noColon]
  simp only [name, value, kept, read]
  rfl

/-- **Hidden lengths.** Whichever character that is not stored breaks up the name, lines of which
the last one has this name, and no other has a length, announce nothing and declare a length all the
same. -/
theorem hidden_length {front : List String} (unspelled : ∀ line ∈ front, spelled? line = none)
    (unstored : ∀ line ∈ front, stored? line = none) {c : Char} (hidden : isFieldChar c = false)
    {size : Nat} (small : size < sizeLimit) :
    spelledLength (front ++ [splitName c size]) = 0 ∧
      storedLength (front ++ [splitName c size]) = size := by
  have notColon : c ≠ ':' := by
    rintro rfl
    exact absurd hidden (by decide)
  unfold spelledLength storedLength
  rw [List.findSome?_append, List.findSome?_append, List.findSome?_eq_none_iff.mpr unspelled,
    List.findSome?_eq_none_iff.mpr unstored, List.findSome?_singleton, List.findSome?_singleton,
    spelled?_splitName notColon, stored?_splitName hidden small]
  exact ⟨rfl, rfl⟩

end HttpService.Wire
