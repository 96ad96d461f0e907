import HttpService.Proofs.Routing.Repeating

/-!
Contract: captured text in the query of a destination.

Owns:
- the parameters of a template: its pieces, cut into key and value while the references still
  stand in them;
- that filling in and cutting may change places, since escaped text holds no separator;
- that reading a form undoes the escapes of what is filled in, and nothing else;
- **a rewrite adds the parameters of the template**, with captures put in as they are.

Does not own: templates that hold escapes of their own.
-/

namespace HttpService.Routing

open Text

/-! ## Templates of parameters -/

/-- What a form means by a character: `+` is a space. -/
def spaceFor (c : Char) : Char :=
  if c = '+' then ' ' else c

/-- A text with a space for each `+`. -/
def spaced (chars : List Char) : List Char :=
  chars.map spaceFor

/-- The key and the value of a piece, in which references may stand. -/
def slot (piece : List Char) : List Char × List Char :=
  match cut? '=' piece with
  | some (key, value) => (spaced key, spaced value)
  | none => (spaced piece, [])

/-- The keys and values of a query; empty pieces do not count. -/
def slots (query : List Char) : List (List Char × List Char) :=
  ((query.splitOn '&').filter (· ≠ [])).map slot

/-- The keys and values of a destination: none if it has no query. -/
def Destination.slots (destination : Destination) : List (List Char × List Char) :=
  match destination.query with
  | none => []
  | some query => Routing.slots query.toList

/-- A parameter is what substitution makes of a key and a value. -/
def Fills (value? : String → Option String) (slot : List Char × List Char)
    (parameter : String × String) : Prop :=
  Substituted value? slot.1 parameter.1.toList ∧ Substituted value? slot.2 parameter.2.toList

/-- The segment of a path that a pattern captures under a name. -/
def Pattern.captured? (pattern : Pattern) (path : List String) (name : String) : Option String :=
  (Segment.capture pattern.segments path).lookup name

/-- A text without `%` whose references are bare names. -/
structure Unescaped (chars : List Char) : Prop where
  bare : Bare chars
  unmarked : '%' ∉ chars

section

variable {c : Char}

theorem Unescaped.front (separates : isSeparator c = true) {front back : List Char}
    (unescaped : Unescaped (front ++ c :: back)) : Unescaped front where
  bare := unescaped.bare.front separates
  unmarked := fun member => unescaped.unmarked (List.mem_append_left _ member)

theorem Unescaped.back (separates : isSeparator c = true) {front back : List Char}
    (unescaped : Unescaped (front ++ c :: back)) : Unescaped back where
  bare := unescaped.bare.back separates
  unmarked := fun member =>
    unescaped.unmarked (List.mem_append_right _ (List.mem_cons_of_mem _ member))

theorem isAlphanum_of_isSeparator (separates : isSeparator c = true) : c.isAlphanum = false := by
  have outside := (isSeparator_iff.mp separates).1
  cases letter : c.isAlphanum with
  | false => rfl
  | true =>
      unfold isNameChar isWord at outside
      rw [if_pos (Percent.ascii_of_isAlphanum letter), letter] at outside
      cases outside

end

/-- A text holds no separator, or may be cut at the first one. -/
theorem cut_induction {motive : List Char → Prop} (c : Char)
    (whole : ∀ piece, c ∉ piece → motive piece)
    (cut : ∀ front back, c ∉ front → motive back → motive (front ++ c :: back))
    (chars : List Char) : motive chars := by
  by_cases member : c ∈ chars
  · obtain ⟨front, back, shape, absent⟩ := List.eq_append_cons_of_mem member
    rw [shape]
    exact cut front back absent (cut_induction c whole cut back)
  · exact whole chars member
termination_by chars.length
decreasing_by
  rw [shape, List.length_append, List.length_cons]
  omega

/-! ## Cutting what is filled in -/

section

variable {params : List (String × String)} {c : Char}

theorem filled_append_of_bare (separates : isSeparator c = true) {front back : List Char}
    (bare : Bare (front ++ c :: back)) :
    filled params (front ++ c :: back) = filled params front ++ c :: filled params back := by
  unfold filled
  rw [pieces_append_of_bare separates front bare, List.flatMap_append, List.flatMap_cons]
  rfl

/-- **Captured text adds no separator**: a text is cut into the same pieces before and after its
references are filled in. -/
theorem splitOn_filled (params : List (String × String)) (separates : isSeparator c = true)
    (unmarked : c ≠ '%') {chars : List Char} (unescaped : Unescaped chars) :
    (filled params chars).splitOn c = (chars.splitOn c).map (filled params) ∧
      ∀ piece ∈ chars.splitOn c, Unescaped piece := by
  have special := isAlphanum_of_isSeparator separates
  induction chars using cut_induction c with
  | whole piece absent =>
      rw [List.splitOn_eq_singleton (not_mem_filled unmarked special absent),
        List.splitOn_eq_singleton absent]
      exact ⟨rfl, by simpa using unescaped⟩
  | cut front back absent inductionHypothesis =>
      obtain ⟨same, pieces⟩ := inductionHypothesis (unescaped.back separates)
      rw [filled_append_of_bare separates unescaped.bare,
        List.splitOn_append_cons_self_of_not_mem (not_mem_filled unmarked special absent),
        List.splitOn_append_cons_self_of_not_mem absent, same]
      exact ⟨rfl, List.forall_mem_cons.mpr ⟨unescaped.front separates, pieces⟩⟩

theorem cut?_filled (separates : isSeparator c = true) (unmarked : c ≠ '%') {chars : List Char}
    (bare : Bare chars) :
    cut? c (filled params chars) =
      (cut? c chars).map (Prod.map (filled params) (filled params)) := by
  have special := isAlphanum_of_isSeparator separates
  cases cut : cut? c chars with
  | none =>
      exact cut?_eq_none_iff.mpr (not_mem_filled unmarked special (cut?_eq_none_iff.mp cut))
  | some parts =>
      obtain ⟨front, back⟩ := parts
      have absent : c ∉ filled params front :=
        not_mem_filled unmarked special (not_mem_of_cut? cut)
      rw [eq_append_of_cut? cut] at bare ⊢
      rw [filled_append_of_bare separates bare, cut?_append absent]
      rfl

theorem filled_eq_nil_iff (spoken : ∀ parameter ∈ params, parameter.2 ≠ "") {chars : List Char} :
    filled params chars = [] ↔ chars = [] := by
  rw [filled_eq_filledWith]
  induction chars using template_induction with
  | done => rw [filledWith_nil]
  | plain c rest unreferenced =>
      rw [filledWith_cons unreferenced]
      exact ⟨nofun, nofun⟩
  | reference name after closed =>
      cases found : params.lookup (String.ofList name) with
      | some value =>
          obtain ⟨_, _, shape, _⟩ := List.lookup_eq_some_iff.mp found
          have written : (Percent.encode value).toList ≠ [] := by
            apply Percent.toList_encode_ne_nil
            apply spoken (String.ofList name, value)
            rw [shape]
            simp
          rw [filledWith_of_known closed found, List.append_eq_nil_iff]
          exact ⟨fun vanished => absurd vanished.1 written, nofun⟩
      | none =>
          rw [filledWith_of_unknown closed found]
          exact ⟨nofun, nofun⟩

end

/-! ## Reading what is filled in -/

theorem spaceFor_eq_iff {c mark : Char} (plus : mark ≠ '+') (space : mark ≠ ' ') :
    spaceFor c = mark ↔ c = mark := by
  unfold spaceFor
  by_cases here : c = '+'
  · rw [if_pos here, here]
    exact ⟨fun same => absurd same.symm space, fun same => absurd same.symm plus⟩
  · rw [if_neg here]

/-- The octets of `+` and of a space are those characters and nothing else. -/
theorem map_utf8EncodeChar (c : Char) :
    (String.utf8EncodeChar c).map (fun byte => if byte = 0x2B then 0x20 else byte) =
      String.utf8EncodeChar (spaceFor c) := by
  unfold spaceFor
  by_cases plus : c = '+'
  · rw [plus]
    rfl
  · have alone : Utf8.spell [c] = String.utf8EncodeChar c := List.flatMap_singleton _ _
    have absent : '+' ∉ [c] := by simpa using Ne.symm plus
    rw [if_neg plus, ← alone]
    exact Query.map_spell_of_not_mem absent

theorem map_spell (chars : List Char) :
    (Utf8.spell chars).map (fun byte => if byte = 0x2B then 0x20 else byte) =
      Utf8.spell (spaced chars) := by
  unfold Utf8.spell spaced
  rw [List.map_flatMap, List.flatMap_map]
  exact List.flatMap_congr fun c _ => map_utf8EncodeChar c

theorem spaced_of_not_mem {chars : List Char} (absent : '+' ∉ chars) : spaced chars = chars := by
  refine map_eq_self fun c member => if_neg ?_
  rintro rfl
  exact absent member

theorem spaced_nil : spaced [] = [] :=
  rfl

theorem spaced_cons (c : Char) (rest : List Char) :
    spaced (c :: rest) = spaceFor c :: spaced rest :=
  rfl

theorem spaced_append (front back : List Char) :
    spaced (front ++ back) = spaced front ++ spaced back :=
  List.map_append

/-- Spaces are put neither for a mark of a reference nor in the place of one. -/
theorem unreferenced_spaced {c : Char} {rest : List Char} (unreferenced : Unreferenced c rest) :
    Unreferenced (spaceFor c) (spaced rest) := by
  intro name after closed shape
  rw [writeReference_append, List.cons.injEq, spaceFor_eq_iff (by decide) (by decide)] at shape
  obtain ⟨dollar, opened⟩ := shape
  obtain ⟨opening, inner, rfl, brace, inside⟩ := List.map_eq_cons_iff.mp opened
  obtain ⟨held, behind, rfl, named, ended⟩ := List.map_eq_append_iff.mp inside
  obtain ⟨closing, behind, rfl, lastBrace, _⟩ := List.map_eq_cons_iff.mp ended
  rw [spaceFor_eq_iff (by decide) (by decide)] at brace lastBrace
  apply unreferenced held behind
  · intro member
    rw [← named] at closed
    exact closed (List.mem_map_of_mem (f := spaceFor) member)
  · rw [writeReference_append, dollar, brace, lastBrace]

section

variable {params : List (String × String)}

/-- A text with bare names may have its spaces put before or after it is filled in. -/
theorem spaced_filled {chars : List Char} (bare : Bare chars) :
    spaced (filled params chars) = filled params (spaced chars) := by
  simp only [filled_eq_filledWith]
  induction chars using template_induction with
  | done =>
      rw [filledWith_nil, spaced_nil, filledWith_nil]
  | plain c rest unreferenced inductionHypothesis =>
      have behind := inductionHypothesis (bare.behind (pieces_of_unreferenced unreferenced))
      rw [filledWith_cons unreferenced, spaced_cons, spaced_cons,
        filledWith_cons (unreferenced_spaced unreferenced), behind]
  | reference name after closed inductionHypothesis =>
      have behind := inductionHypothesis (bare.behind (pieces_writeReference closed after))
      have named := bare.isName_of_writeReference closed
      have plainly : spaced (writeReference name) = writeReference name := by
        apply spaced_of_not_mem
        simp [writeReference, not_mem_name (by decide : isNameChar '+' = false) named]
      rw [spaced_append, plainly]
      cases found : params.lookup (String.ofList name) with
      | some value =>
          have escaped := Percent.not_mem_encode (c := '+') (by decide) (by decide) value
          rw [filledWith_of_known closed found, filledWith_of_known closed found, spaced_append,
            spaced_of_not_mem escaped, behind]
      | none =>
          rw [filledWith_of_unknown closed found, filledWith_of_unknown closed found,
            spaced_append, plainly, behind]

/-- **Decoding takes back the escapes of what has been filled in**, and changes nothing else in a
text without `%`. -/
theorem decode_filled {chars result : List Char}
    (substituted : Substituted (fun name => params.lookup name) chars result)
    (unmarked : '%' ∉ chars) :
    Percent.decode (Utf8.spell (filled params chars)) = Utf8.spell result := by
  rw [filled_eq_filledWith]
  induction substituted with
  | done =>
      rw [filledWith_nil]
      rfl
  | @plain c rest result unreferenced _ inductionHypothesis =>
      rw [List.mem_cons, not_or] at unmarked
      have behind := inductionHypothesis unmarked.2
      have front : '%' ∉ [c] := by simpa using unmarked.1
      rw [filledWith_cons unreferenced, ← List.singleton_append, Percent.decode_spell_append front,
        behind, ← Utf8.spell_append, List.singleton_append]
  | replaced closed known _ inductionHypothesis =>
      rw [List.mem_append, not_or] at unmarked
      rw [filledWith_of_known closed known, Utf8.spell_append, Percent.decode_spell_encode,
        inductionHypothesis unmarked.2, Utf8.encode_eq_spell, ← Utf8.spell_append]
  | kept closed unknown _ inductionHypothesis =>
      rw [List.mem_append, not_or] at unmarked
      rw [filledWith_of_unknown closed unknown, Percent.decode_spell_append unmarked.1,
        inductionHypothesis unmarked.2, ← Utf8.spell_append]

theorem substituted_decodeComponent {chars : List Char} (unescaped : Unescaped chars) :
    Substituted (fun name => params.lookup name) (spaced chars)
      (Query.decodeComponent (Utf8.spell (filled params chars))).toList := by
  have substituted : Substituted (fun name => params.lookup name) (spaced chars) _ :=
    substituted_plainlyFilled (spaced chars)
  have unmarked : '%' ∉ spaced chars := by
    intro member
    obtain ⟨c, held, mark⟩ := List.mem_map.mp member
    rw [spaceFor_eq_iff (by decide) (by decide)] at mark
    exact unescaped.unmarked (mark ▸ held)
  unfold Query.decodeComponent Utf8.decodeLossy
  rw [map_spell, spaced_filled unescaped.bare, decode_filled substituted unmarked,
    Utf8.decode?_spell, String.toList_ofList]
  exact substituted

theorem fills_decodePiece {piece : List Char} (unescaped : Unescaped piece) :
    Fills (fun name => params.lookup name) (slot piece)
      (Query.decodePiece (Utf8.spell (filled params piece))) := by
  have octet : (0x3D : UInt8) = Utf8.octet '=' := by decide
  have separates : isSeparator '=' = true := by decide
  unfold Query.decodePiece slot
  rw [octet, Utf8.cut?_spell (by decide), cut?_filled separates (by decide) unescaped.bare]
  cases cut : cut? '=' piece with
  | none => exact ⟨substituted_decodeComponent unescaped, .done⟩
  | some parts =>
      obtain ⟨key, value⟩ := parts
      rw [eq_append_of_cut? cut] at unescaped
      exact ⟨substituted_decodeComponent (unescaped.front separates),
        substituted_decodeComponent (unescaped.back separates)⟩

/-- **Reading a filled in query gives the parameters of its template**, each with captures put in
as they are. -/
theorem forall₂_decodeForm_filled (spoken : ∀ parameter ∈ params, parameter.2 ≠ "")
    {query : List Char} (unescaped : Unescaped query) :
    List.Forall₂ (Fills fun name => params.lookup name) (slots query)
      (Query.decodeForm (Utf8.spell (filled params query))) := by
  have octet : (0x26 : UInt8) = Utf8.octet '&' := by decide
  obtain ⟨cuts, pieces⟩ :=
    splitOn_filled params (by decide : isSeparator '&' = true) (by decide) unescaped
  have kept : (fun piece => decide (piece ≠ [])) ∘ Utf8.spell ∘ filled params =
      fun piece => decide (piece ≠ []) := by
    funext piece
    simp [Utf8.spell_eq_nil_iff, filled_eq_nil_iff spoken]
  unfold Query.decodeForm slots
  rw [octet, Utf8.splitOn_spell (by decide), cuts, List.map_map, List.filter_map, kept,
    List.map_map, List.forall₂_map_left_iff, List.forall₂_map_right_iff, List.forall₂_same]
  intro piece member
  exact fills_decodePiece (pieces piece (List.mem_filter.mp member).1)

end

/-! ## Captured text -/

/-- What a dynamic segment captures is never empty. -/
theorem ne_empty_of_mem_capture : ∀ {segments : List Segment} {path : List String},
    Key.acceptAll (segments.map Segment.key) path = true →
      ∀ parameter ∈ Segment.capture segments path, parameter.2 ≠ ""
  | [], _, _ => nofun
  | .literal _ :: _, [], accepted => by cases accepted
  | .dynamic .. :: _, [], accepted => by cases accepted
  | .literal _ :: segments, _ :: path, accepted => by
      rw [List.map_cons, Key.acceptAll, Bool.and_eq_true] at accepted
      rw [Segment.capture]
      exact ne_empty_of_mem_capture accepted.2
  | .dynamic name opening closing :: segments, text :: path, accepted => by
      rw [List.map_cons, Key.acceptAll, Bool.and_eq_true] at accepted
      rw [Segment.capture, List.forall_mem_cons]
      refine ⟨?_, ne_empty_of_mem_capture accepted.2⟩
      rintro rfl
      have room := accepted.1
      simp [Segment.key, Key.accepts] at room

theorem Destination.parameters_eq (destination : Destination) (params : List (String × String)) :
    destination.parameters params =
      match destination.query with
      | none => []
      | some query => Query.decodeForm (Utf8.spell (filled params query.toList)) := by
  unfold Destination.parameters Destination.rawQuery
  cases destination.query with
  | none => rfl
  | some query =>
      rw [Option.map_some]
      simp only
      rw [Utf8.encode_eq_spell, fillTemplate, String.toList_ofList]
      rfl

theorem params_of_find? {α : Type} {insertions : List (Pattern × α)} {path : List String}
    {best : Match α} (search : (Trie.ofInsertions insertions).find? path = some best) :
    best.params = Segment.capture best.pattern.segments path := by
  rw [(Trie.holds_ofInsertions insertions).find?_eq (Registration.separate_ofInsertions insertions)]
    at search
  obtain ⟨held, _, rfl⟩ := Option.map_eq_some_iff.mp search
  rfl

theorem checkReferences_of_checkTarget {target : List Char}
    (checked : checkTarget target = .ok ()) : checkReferences target = .ok () := by
  unfold checkTarget at checked
  split at checked
  · cases checked
  · split at checked
    · cases checked
    · exact checked

theorem bare_of_checkReferences {target : List Char}
    (checked : checkReferences target = .ok ()) : Bare target := by
  intro name member
  unfold checkReferences firstInvalidReference? at checked
  rw [String.toList_ofList] at checked
  split at checked
  · cases checked
  · rename_i valid
    have named := List.findSome?_eq_none_iff.mp valid _ member
    simp only [ite_eq_left_iff, reduceCtorEq, imp_false, Bool.not_eq_true, Bool.not_eq_false]
      at named
    exact named

/-- The references in the query of a rule are bare names. -/
theorem bare_query_of_mem_rulesOf {contents : String} {rule : Pattern × Destination}
    (member : rule ∈ rulesOf contents) {query : String} (asked : rule.2.query = some query) :
    Bare query.toList := by
  obtain ⟨target, destination, checked⟩ := exists_target_of_mem_rulesOf member
  have bare := bare_of_checkReferences (checkReferences_of_checkTarget checked)
  rw [destination, query_ofString, Option.map_eq_some_iff] at asked
  obtain ⟨chars, found, rfl⟩ := asked
  unfold Destination.splitQuery at found
  split at found
  · rename_i path query cut
    rw [Option.some.injEq] at found
    rw [eq_append_of_cut? cut, found] at bare
    rw [String.toList_ofList]
    exact bare.back (by decide)
  · cases found

namespace RewriteTable

variable {contents : String} {table : RewriteTable}

/-- **Captured text adds no parameters.** If the query of the rule that is found for a target holds
no `%`, a rewrite succeeds, and what it adds to the query of the target are the parameters of the
template: its pieces between `&`, each cut at its first `=` into a key and a value with a space for
each `+`, and only then with each reference to a capture replaced by the captured text as it is. -/
theorem rewrite_adds_parameters (loaded : parse contents = .ok table) {target : Target}
    (ordinary : target.isAsterisk = false) {best : Match Destination}
    (search : table.rules.find? target.edgePath = some best)
    (unmarked : ∀ query, best.value.query = some query → '%' ∉ query.toList) :
    (table.rewrite target).result = .ok true ∧
      ∃ added, (table.rewrite target).target.query = target.query.addAll added ∧
        List.Forall₂ (Fills (best.pattern.captured? target.edgePath)) best.value.slots added := by
  have readable : ∀ raw, best.value.rawQuery best.params = some raw → Query.isReadable raw = true :=
    fun _ => isReadable_of_find? loaded search fun query held =>
      Percent.isWhole_of_not_mem (unmarked query held)
  obtain ⟨answer, moved⟩ := rewrite_of_find? ordinary search readable
  refine ⟨answer, best.value.parameters best.params, by rw [moved], ?_⟩
  have member := mem_rulesOf_of_find? loaded search
  rw [rules_parse loaded] at search
  have captured := params_of_find? search
  have spoken : ∀ parameter ∈ best.params, parameter.2 ≠ "" := by
    rw [captured]
    exact ne_empty_of_mem_capture (Trie.mem_insertions_of_find? search).2
  rw [Destination.parameters_eq]
  unfold Destination.slots Pattern.captured?
  rw [← captured]
  cases held : best.value.query with
  | none => exact .nil
  | some query =>
      exact forall₂_decodeForm_filled spoken
        ⟨bare_query_of_mem_rulesOf member held, unmarked query held⟩

/-- A rule whose capture goes into a query, next to a `+`. -/
def searchFile : String :=
  "/s/${x} /b?q=${x}+1&"

/-- A target whose captured segment holds the marks of a query, of an escape and of a reference. -/
def markedTarget : Target :=
  ⟨["s", "a&b=c%41+#?/ é${x}"], none, "", false, [], ∅⟩

theorem rewrite_adds_parameters_searchFile :
    ∃ table, parse searchFile = .ok table ∧
      (table.rewrite markedTarget).result = .ok true ∧
      (table.rewrite markedTarget).target.query = ⟨[("q", #["a&b=c%41+#?/ é${x} 1"])]⟩ := by
  obtain ⟨table, loaded⟩ :=
    exists_table_of_isOk (by decide +kernel : (parse searchFile).isOk = true)
  have found : ((Trie.ofInsertions (rulesOf searchFile)).find? markedTarget.edgePath).map
      (fun best => (best.pattern, best.value)) =
        some (⟨[.literal "s", .dynamic "x" "" ""]⟩,
          ⟨"/b?q=${x}+1&", ["b"], some "q=${x}+1&"⟩) := by
    decide +kernel
  rw [← rules_parse loaded, Option.map_eq_some_iff] at found
  obtain ⟨best, search, same⟩ := found
  obtain ⟨pattern, value⟩ := Prod.mk.inj same
  have unmarked : ∀ query, best.value.query = some query → '%' ∉ query.toList := by
    rw [value]
    rintro _ held
    cases held
    decide +kernel
  have slots : best.value.slots = [("q".toList, "${x} 1".toList)] := by
    rw [value]
    decide +kernel
  obtain ⟨answer, added, grown, fills⟩ := rewrite_adds_parameters loaded rfl search unmarked
  rw [slots, pattern] at fills
  obtain ⟨parameter, rest, ⟨keyFilled, valueFilled⟩, nothing, rfl⟩ :=
    List.forall₂_cons_left_iff.mp fills
  have key : parameter.1.toList = "q".toList :=
    (substituted_iff.mp keyFilled).trans (by decide +kernel)
  have text : parameter.2.toList = "a&b=c%41+#?/ é${x} 1".toList :=
    (substituted_iff.mp valueFilled).trans (by decide +kernel)
  rw [List.forall₂_nil_left_iff.mp nothing] at grown
  refine ⟨table, loaded, answer, grown.trans ?_⟩
  rw [← Prod.mk.eta (p := parameter), String.toList_inj.mp key, String.toList_inj.mp text]
  rfl

end RewriteTable

end HttpService.Routing
