import HttpService.Proofs.Query.Values
import HttpService.Proofs.Text.Percent

/-!
Contract: raw queries, and what adding one in place comes to.

Owns:
- which raw queries are refused, and that a refusal leaves a query as it is;
- the raw query that some parameters are written as;
- **encoded parameters are read back**, whatever texts they are, and come behind those that a query
  has had before.

Does not own: raw queries with escapes of another form.
-/

namespace HttpService.Query

open Text

/-! ## Adding in place -/

/-- A query can be read exactly if it has no `?` and two digits follow every `%`. -/
theorem extend_eq_error_iff (query : Query) (raw : String) (error : RequestError) :
    query.extend raw = .error error ↔
      ('?' ∈ raw.toList ∨ Percent.isWhole raw.toList = false) ∧ error = .invalidQuery raw := by
  have unreadable : (!raw.toList.contains '?' && Percent.isWhole raw.toList) = false ↔
      '?' ∈ raw.toList ∨ Percent.isWhole raw.toList = false := by
    rw [Bool.and_eq_false_iff, Bool.not_eq_false', List.contains_iff_mem]
  unfold extend isReadable
  rw [Percent.isWellFormed_encode, ← unreadable]
  cases !raw.toList.contains '?' && Percent.isWhole raw.toList with
  | true =>
      rw [if_pos rfl]
      exact ⟨nofun, nofun⟩
  | false =>
      rw [if_neg (by decide), Except.error.injEq]
      exact ⟨fun same => ⟨rfl, same.symm⟩, fun both => both.2.symm⟩

/-- Adds the parameters of a raw query in place. What has been added stays, even if it fails
later. -/
def extendHeld (raw : String) : ExceptT RequestError (StateM Query) Unit := do
  if raw.toList.contains '?' then
    throw (.invalidQuery raw)
  if !Percent.isWellFormed (Utf8.encode raw) then
    throw (.invalidQuery raw)
  for (key, value) in decodeForm (Utf8.encode raw) do
    modify fun held => held.insert key value

/-- Adding in place one parameter after the other does not fail. -/
theorem run_foldlM_insert (parameters : List (String × String)) (query : Query) :
    (parameters.foldlM
      (fun _ parameter => modify fun held : Query => held.insert parameter.1 parameter.2)
      PUnit.unit : ExceptT RequestError (StateM Query) PUnit).run.run query =
        (.ok (), query.addAll parameters) := by
  induction parameters generalizing query with
  | nil => rfl
  | cons parameter rest inductionHypothesis =>
      rw [List.foldlM_cons]
      exact inductionHypothesis (query.insert parameter.1 parameter.2)

/-- **Adding in place is all or nothing**: it comes to the same as reading first and adding then. -/
theorem run_extendHeld (query : Query) (raw : String) :
    (extendHeld raw).run.run query =
      match query.extend raw with
      | .ok after => (.ok (), after)
      | .error error => (.error error, query) := by
  unfold extendHeld extend isReadable
  cases asked : raw.toList.contains '?' with
  | true => rfl
  | false =>
      cases whole : Percent.isWellFormed (Utf8.encode raw) with
      | false => rfl
      | true =>
          have added := run_foldlM_insert (decodeForm (Utf8.encode raw)) query
          simpa [addAll] using added

/-! ## Written parameters -/

/-- A key and a value as a raw query gives them, everything in them escaped but ASCII letters and
digits. -/
def encodePiece (parameter : String × String) : String :=
  Percent.encode parameter.1 ++ "=" ++ Percent.encode parameter.2

/-- The raw query that some parameters are written as. -/
def encodeForm (parameters : List (String × String)) : String :=
  "&".intercalate (parameters.map encodePiece)

theorem toList_encodePiece (parameter : String × String) :
    (encodePiece parameter).toList =
      (Percent.encode parameter.1).toList ++ '=' :: (Percent.encode parameter.2).toList := by
  unfold encodePiece
  rw [String.toList_append, String.toList_append, List.append_assoc]
  rfl

theorem toList_encodeForm (parameters : List (String × String)) :
    (encodeForm parameters).toList =
      ['&'].intercalate (parameters.map fun parameter => (encodePiece parameter).toList) := by
  unfold encodeForm
  rw [String.toList_intercalate, List.map_map]
  rfl

theorem not_mem_encodePiece {c : Char} (unmarked : c ≠ '%') (separate : c ≠ '=')
    (special : c.isAlphanum = false) (parameter : String × String) :
    c ∉ (encodePiece parameter).toList := by
  rw [toList_encodePiece, List.mem_append, List.mem_cons]
  rintro (key | sign | value)
  · exact Percent.not_mem_encode unmarked special parameter.1 key
  · exact separate sign
  · exact Percent.not_mem_encode unmarked special parameter.2 value

/-- No octet of a text without `+` is taken for a space. -/
theorem map_spell_of_not_mem {chars : List Char} (absent : '+' ∉ chars) :
    (Utf8.spell chars).map (fun byte => if byte = 0x2B then 0x20 else byte) = Utf8.spell chars := by
  have plus : (0x2B : UInt8) = Utf8.octet '+' := by decide
  refine map_eq_self fun byte member => if_neg ?_
  rintro rfl
  rw [plus, Utf8.octet_mem_spell (by decide)] at member
  exact absent member

theorem decodeComponent_encode (text : String) :
    decodeComponent (Utf8.spell (Percent.encode text).toList) = text := by
  have unspaced := Percent.not_mem_encode (c := '+') (by decide) (by decide) text
  have decoded := Percent.decode_spell_encode text []
  rw [List.append_nil, Percent.decode, List.append_nil] at decoded
  unfold decodeComponent
  rw [map_spell_of_not_mem unspaced, decoded, Utf8.decodeLossy_encode]

theorem decodePiece_encodePiece (parameter : String × String) :
    decodePiece (Utf8.spell (encodePiece parameter).toList) = parameter := by
  have sign : (0x3D : UInt8) = Utf8.octet '=' := by decide
  have inKey := Percent.not_mem_encode (c := '=') (by decide) (by decide) parameter.1
  unfold decodePiece
  rw [sign, Utf8.cut?_spell (by decide), toList_encodePiece, cut?_append inKey]
  show (decodeComponent _, decodeComponent _) = parameter
  rw [decodeComponent_encode, decodeComponent_encode]

/-- **Reading undoes writing**: parameters are read back one by one, whatever texts they are. -/
theorem decodeForm_encodeForm (parameters : List (String × String)) :
    decodeForm (Utf8.encode (encodeForm parameters)) = parameters := by
  have separator : (0x26 : UInt8) = Utf8.octet '&' := by decide
  unfold decodeForm
  rw [Utf8.encode_eq_spell, separator, Utf8.splitOn_spell (by decide), toList_encodeForm]
  by_cases filled : parameters = []
  · rw [filled]
    rfl
  · have uncut : ∀ piece ∈ parameters.map fun parameter => (encodePiece parameter).toList,
        '&' ∉ piece := by
      intro piece member
      obtain ⟨parameter, _, rfl⟩ := List.mem_map.mp member
      exact not_mem_encodePiece (by decide) (by decide) (by decide) parameter
    rw [List.splitOn_intercalate '&' uncut (by simpa using filled), List.map_map,
      List.filter_eq_self.mpr, List.map_map]
    · refine map_eq_self fun parameter _ => ?_
      rw [Function.comp_apply, Function.comp_apply, decodePiece_encodePiece]
    · intro piece member
      obtain ⟨parameter, _, rfl⟩ := List.mem_map.mp member
      simp [Utf8.spell_eq_nil_iff, toList_encodePiece]

theorem isWhole_encodePiece (parameter : String × String) (tail : List Char) :
    Percent.isWhole ((encodePiece parameter).toList ++ tail) = Percent.isWhole tail := by
  rw [toList_encodePiece, List.append_assoc, Percent.isWhole_encode, List.cons_append,
    Percent.isWhole_cons_of_ne (by decide), Percent.isWhole_encode]

theorem isWhole_encodeForm (parameters : List (String × String)) :
    Percent.isWhole (encodeForm parameters).toList = true := by
  rw [toList_encodeForm]
  induction parameters with
  | nil => rfl
  | cons parameter rest inductionHypothesis =>
      cases rest with
      | nil =>
          have ended := isWhole_encodePiece parameter []
          rw [List.append_nil] at ended
          rw [List.map_singleton, List.intercalate_singleton]
          exact ended
      | cons next rest =>
          simp only [List.map_cons, List.intercalate_cons_cons, List.append_assoc,
            List.singleton_append] at inductionHypothesis ⊢
          rw [isWhole_encodePiece, Percent.isWhole_cons_of_ne (by decide), inductionHypothesis]

theorem question_not_mem_encodeForm (parameters : List (String × String)) :
    '?' ∉ (encodeForm parameters).toList := by
  intro member
  rw [toList_encodeForm] at member
  rcases mem_intercalate member with mark | ⟨piece, written, inside⟩
  · cases mark
  · obtain ⟨parameter, _, rfl⟩ := List.mem_map.mp written
    exact not_mem_encodePiece (by decide) (by decide) (by decide) parameter inside

theorem extend_encodeForm (query : Query) (parameters : List (String × String)) :
    query.extend (encodeForm parameters) = .ok (query.addAll parameters) := by
  have readable : isReadable (encodeForm parameters) = true := by
    unfold isReadable
    rw [Percent.isWellFormed_encode, isWhole_encodeForm, Bool.and_true, Bool.not_eq_true',
      ← Bool.not_eq_true, List.contains_iff_mem]
    exact question_not_mem_encodeForm parameters
  rw [extend_of_isReadable readable, decodeForm_encodeForm]

/-! ## Extended queries -/

/-- A query that holds the parameters of another one, and further ones behind them. -/
structure Extended (query : Query) (parameters : List (String × String)) (after : Query) :
    Prop where
  values : ∀ key,
    (after.all? key).getD [] = (query.all? key).getD [] ++ valuesOf key parameters
  known : ∀ key,
    after.contains key = true ↔ query.contains key = true ∨ key ∈ parameters.map Prod.fst
  size : after.size = (query.keys ++ parameters.map Prod.fst).toFinset.card
  distinct : after.Distinct

theorem extended_addAll {query : Query} (distinct : query.Distinct)
    (parameters : List (String × String)) : Extended query parameters (query.addAll parameters) where
  values := by
    intro key
    rw [all?_addAll]
    unfold grown
    split
    · rename_i none
      rw [none, List.append_nil]
    · rfl
  known := by
    intro key
    have keys := toFinset_keys_addAll parameters query
    rw [contains_iff_mem_keys, contains_iff_mem_keys, ← List.mem_toFinset, keys,
      List.mem_toFinset, List.mem_append]
  size := size_addAll distinct parameters
  distinct := distinct.addAll parameters

/-- **Reading undoes writing, and only adds.** Any parameters, written with everything in them
escaped but ASCII letters and digits, are added to a query in place, each behind the values that its
key has. A raw query is refused exactly if it holds a `?`, or a `%` without two hexadecimal digits
behind it, and leaves the query as it is. -/
theorem extendHeld_encodeForm {query : Query} (distinct : query.Distinct) :
    (∀ parameters, ∃ after,
      (extendHeld (encodeForm parameters)).run.run query = (.ok (), after) ∧
        Extended query parameters after) ∧
    ∀ raw error after, (extendHeld raw).run.run query = (.error error, after) ↔
      ('?' ∈ raw.toList ∨ Percent.isWhole raw.toList = false) ∧
        error = .invalidQuery raw ∧ after = query := by
  constructor
  · intro parameters
    refine ⟨query.addAll parameters, ?_, extended_addAll distinct parameters⟩
    rw [run_extendHeld, extend_encodeForm]
  · intro raw error after
    rw [run_extendHeld, ← and_assoc, ← extend_eq_error_iff query raw error]
    cases query.extend raw with
    | ok added => exact ⟨nofun, nofun⟩
    | error cause =>
        rw [Prod.mk.injEq, Except.error.injEq, Except.error.injEq]
        exact and_congr_right' eq_comm

/-- A query that holds a value. -/
def heldQuery : Query :=
  ⟨[("a", #["0"])]⟩

/-- Parameters with the marks of a query in them, an empty one, and one with a key that is held. -/
def markedParameters : List (String × String) :=
  [("b&=", "é+%?"), ("", ""), ("a", "1")]

theorem extendHeld_encodeForm_marked :
    heldQuery.Distinct ∧
      (∃ after,
        (extendHeld "b%26%3D=%C3%A9%2B%25%3F&=&a=1").run.run heldQuery = (.ok (), after) ∧
          Extended heldQuery markedParameters after) ∧
      (extendHeld "a=1&b=%2").run.run heldQuery = (.error (.invalidQuery "a=1&b=%2"), heldQuery) := by
  have distinct : heldQuery.Distinct := distinct_empty.insert "a" "0"
  have written : encodeForm markedParameters = "b%26%3D=%C3%A9%2B%25%3F&=&a=1" := by
    decide +kernel
  have torn : Percent.isWhole "a=1&b=%2".toList = false := by decide
  obtain ⟨added, refused⟩ := extendHeld_encodeForm distinct
  have extended := added markedParameters
  rw [written] at extended
  exact ⟨distinct, extended, (refused _ _ _).mpr ⟨.inr torn, rfl, rfl⟩⟩

end HttpService.Query
