import HttpService.Proofs.Headers.Frame
import HttpService.Proofs.Pipeline.Acceptance
import HttpService.Proofs.Text.Trim
import HttpService.Proofs.Text.Utf8

/-!
Contract: media types that are written and read again.

Owns:
- what the casing of a character leaves as it is;
- the media types that reading a text can give;
- what is read from the written form of such a media type;
- **which media types are read again from their written form**: all but those whose charset ends in
  white space, and that the check of the acceptable types finds such a media type in a response
  that has it written.

Does not own: which media type answers for another one.
-/

namespace HttpService

open Text

variable {World : Type}

/-! ## Casing -/

/-- Only capital letters change, into small ones. -/
theorem toLower_cases (c : Char) :
    c.toLower = c ∨ (65 ≤ c.toNat ∧ c.toNat ≤ 90 ∧ c.toLower.toNat = c.toNat + 32) := by
  unfold Char.toLower
  split
  · rename_i capital
    have low : 65 ≤ c.val.toNat := UInt32.le_iff_toNat_le.mp capital.1
    have high : c.val.toNat ≤ 90 := UInt32.le_iff_toNat_le.mp capital.2
    have shift : ('a'.val - 'A'.val).toNat = 32 := by decide
    refine .inr ⟨low, high, ?_⟩
    show (c.val + ('a'.val - 'A'.val)).toNat = c.val.toNat + 32
    rw [UInt32.toNat_add, shift]
    omega
  · exact .inl rfl

theorem toLower_toLower (c : Char) : c.toLower.toLower = c.toLower := by
  rcases toLower_cases c with same | ⟨_, _, small⟩
  · rw [same, same]
  · rcases toLower_cases c.toLower with same | ⟨_, _, _⟩
    · exact same
    · omega

/-- No other character becomes a mark in front of the letters. -/
theorem toLower_eq_iff {c mark : Char} (front : mark.toNat < 65) : c.toLower = mark ↔ c = mark := by
  rcases toLower_cases c with same | ⟨_, _, small⟩
  · rw [same]
  · constructor
    · rintro rfl
      omega
    · rintro rfl
      omega

theorem isBlank_toLower (c : Char) : isBlank c.toLower = isBlank c := by
  rcases toLower_cases c with same | ⟨low, high, small⟩
  · rw [same]
  · have letter : ∀ d : Char, 65 ≤ d.toNat → d.toNat ≤ 122 → isBlank d = false := by
      intro d low high
      simp only [isBlank, Bool.or_eq_false_iff, Bool.and_eq_false_iff, decide_eq_false_iff_not,
        beq_eq_false_iff_ne]
      omega
    rw [letter c low (by omega), letter c.toLower (by omega) (by omega)]

theorem toList_foldCase (name : String) : (foldCase name).toList = name.toList.map Char.toLower :=
  String.toList_ofList

theorem foldCase_foldCase (name : String) : foldCase (foldCase name) = foldCase name := by
  unfold foldCase
  rw [String.toList_ofList, List.map_map]
  exact congrArg String.ofList (List.map_congr_left fun c _ => toLower_toLower c)

theorem mem_foldCase_iff {name : String} {mark : Char} (front : mark.toNat < 65) :
    mark ∈ (foldCase name).toList ↔ mark ∈ name.toList := by
  rw [toList_foldCase, List.mem_map]
  simp only [toLower_eq_iff front, exists_eq_right]

/-- A text with a folded form has its ends in the casing of the text. -/
theorem ends_foldCase {drop : Char → Bool} (same : ∀ c : Char, drop c.toLower = drop c)
    {name : String} :
    ((∀ c, name.toList.head? = some c → drop c = false) →
      ∀ c, (foldCase name).toList.head? = some c → drop c = false) ∧
    ((∀ c, name.toList.getLast? = some c → drop c = false) →
      ∀ c, (foldCase name).toList.getLast? = some c → drop c = false) := by
  rw [toList_foldCase, List.head?_map, List.getLast?_map]
  constructor
  · intro kept c first
    obtain ⟨before, found, rfl⟩ := Option.map_eq_some_iff.mp first
    rw [same, kept before found]
  · intro kept c last
    obtain ⟨before, found, rfl⟩ := Option.map_eq_some_iff.mp last
    rw [same, kept before found]

theorem isQuote_toLower (c : Char) : (c.toLower == '"') = (c == '"') := by
  rw [Bool.eq_iff_iff, beq_iff_eq, beq_iff_eq]
  exact toLower_eq_iff (by decide)

namespace MediaType

/-! ## What reading gives -/

/-- A charset as it is kept: in lower case, in one parameter, and not in quotes. -/
structure IsCharset (name : String) : Prop where
  folded : foldCase name = name
  whole : ';' ∉ name.toList
  opened : ∀ c, name.toList.head? = some c → (c == '"') = false
  closed : ∀ c, name.toList.getLast? = some c → (c == '"') = false

/-- A media type as it is kept: in lower case, with its two parts in front of all parameters, told
apart by the first slash, and with no white space around both. -/
structure Canonical (type : MediaType) : Prop where
  kindFolded : foldCase type.kind = type.kind
  subtypeFolded : foldCase type.subtype = type.subtype
  kindFilled : type.kind.toList ≠ []
  subtypeFilled : type.subtype.toList ≠ []
  kindWhole : ';' ∉ type.kind.toList
  subtypeWhole : ';' ∉ type.subtype.toList
  kindSlash : '/' ∉ type.kind.toList
  opened : ∀ c, type.kind.toList.head? = some c → isBlank c = false
  closed : ∀ c, type.subtype.toList.getLast? = some c → isBlank c = false
  charset : ∀ name, type.charset = some name → IsCharset name

/-- A piece of a text without semicolons is kept as a charset. -/
theorem isCharset_of_value {value : List Char} (whole : ';' ∉ value) :
    IsCharset (foldCase (String.ofList (trimWhile (· == '"') value))) := by
  have ends := ends_trimWhile (· == '"') value
  have chars : (String.ofList (trimWhile (· == '"') value)).toList = trimWhile (· == '"') value :=
    String.toList_ofList
  rw [← chars] at ends
  refine ⟨foldCase_foldCase _, ?_, ?_, ?_⟩
  · rw [mem_foldCase_iff (by decide), String.toList_ofList]
    exact fun inside => whole ((trimWhile_sublist _ value).subset inside)
  · exact (ends_foldCase isQuote_toLower).1 ends.1
  · exact (ends_foldCase isQuote_toLower).2 ends.2

theorem Canonical.absorb {type : MediaType} (canonical : type.Canonical) {param : List Char}
    (whole : ';' ∉ param) : (type.absorb param).Canonical := by
  unfold MediaType.absorb parameter?
  cases cut : cut? '=' (trim param) with
  | none => exact canonical
  | some parts =>
      obtain ⟨found, value⟩ := parts
      by_cases named : found = "charset".toList
      · simp only [if_pos named]
        have inside : value.Sublist param := (cut?_sublist cut).2.trans (trim_sublist param)
        refine { canonical with charset := ?_ }
        intro name kept
        rw [← Option.some.inj kept]
        exact isCharset_of_value fun member => whole (inside.subset member)
      · simp only [if_neg named]
        exact canonical

theorem Canonical.foldl_absorb {params : List (List Char)} (whole : ∀ param ∈ params, ';' ∉ param) :
    ∀ {type : MediaType}, type.Canonical → (params.foldl MediaType.absorb type).Canonical := by
  induction params with
  | nil => exact fun canonical => canonical
  | cons param rest inductionHypothesis =>
      intro type canonical
      apply inductionHypothesis fun later member => whole later (List.mem_cons_of_mem param member)
      exact canonical.absorb (whole param List.mem_cons_self)

/-- The two parts of a text without white space around it and without semicolons. -/
theorem canonical_plain {essence kind subtype : List Char} (whole : ';' ∉ essence)
    (cut : cut? '/' (trim essence) = some (kind, subtype))
    (filled : ¬(kind = [] ∨ subtype = [])) :
    (plain (foldCase (String.ofList kind)) (foldCase (String.ofList subtype))).Canonical := by
  rw [not_or] at filled
  have shape := eq_append_of_cut? cut
  have inside : ∀ c ∈ trim essence, c ≠ ';' := by
    rintro c member rfl
    exact whole ((trim_sublist essence).subset member)
  have ends := ends_trimWhile isBlank essence
  change (∀ c, (trim essence).head? = some c → _) ∧
    ∀ c, (trim essence).getLast? = some c → _ at ends
  rw [shape] at inside ends
  have kindEnds : ∀ c, (String.ofList kind).toList.head? = some c → isBlank c = false := by
    intro c first
    rw [String.toList_ofList] at first
    apply ends.1
    rw [List.head?_append, first]
    rfl
  have subtypeEnds : ∀ c, (String.ofList subtype).toList.getLast? = some c → isBlank c = false := by
    intro c last
    rw [String.toList_ofList] at last
    apply ends.2
    rw [List.getLast?_append, List.getLast?_cons_of_ne_nil filled.2, last]
    rfl
  exact
    { kindFolded := foldCase_foldCase _
      subtypeFolded := foldCase_foldCase _
      kindFilled := by
        show (foldCase _).toList ≠ []
        simpa [toList_foldCase] using filled.1
      subtypeFilled := by
        show (foldCase _).toList ≠ []
        simpa [toList_foldCase] using filled.2
      kindWhole := by
        show _ ∉ (foldCase _).toList
        rw [mem_foldCase_iff (by decide), String.toList_ofList]
        exact fun member => inside ';' (List.mem_append_left _ member) rfl
      subtypeWhole := by
        show _ ∉ (foldCase _).toList
        rw [mem_foldCase_iff (by decide), String.toList_ofList]
        exact fun member => inside ';' (List.mem_append_right _ (List.mem_cons_of_mem _ member)) rfl
      kindSlash := by
        show _ ∉ (foldCase _).toList
        rw [mem_foldCase_iff (by decide), String.toList_ofList]
        exact not_mem_of_cut? cut
      opened := (ends_foldCase isBlank_toLower).1 kindEnds
      closed := (ends_foldCase isBlank_toLower).2 subtypeEnds
      charset := by
        intro name kept
        cases kept }

theorem canonical_of_parse? {raw : String} {type : MediaType} (read : parse? raw = some type) :
    type.Canonical := by
  unfold parse? at read
  split at read
  · cases read
  · rename_i essence params pieces
    have whole : ∀ piece ∈ essence :: params, ';' ∉ piece := by
      rw [← pieces]
      exact fun piece member => not_mem_of_mem_splitOn member
    split at read
    · cases read
    · rename_i kind subtype cut
      by_cases filled : kind = [] ∨ subtype = []
      · rw [if_pos filled] at read
        cases read
      · rw [if_neg filled] at read
        cases read
        apply Canonical.foldl_absorb fun param member => whole param (List.mem_cons_of_mem _ member)
        exact canonical_plain (whole essence List.mem_cons_self) cut filled

/-! ## What is written -/

/-- The charset that is read from the written form of another one: white space at its end is lost,
and then quotes. -/
def readCharset (name : String) : String :=
  foldCase (String.ofList (trimWhile (· == '"') (trimEndWhile isBlank name.toList)))

/-- Whether a media type has a charset that ends in white space. -/
def endsBlank (type : MediaType) : Bool :=
  (type.charset.bind fun name => name.toList.getLast?).any isBlank

/-- The parameter that is written for a charset. -/
def charsetParam (name : String) : List Char :=
  ' ' :: "charset=".toList ++ name.toList

theorem Canonical.splitOn_render {type : MediaType} (canonical : type.Canonical) :
    type.render.toList.splitOn ';' =
      (type.kind.toList ++ '/' :: type.subtype.toList) ::
        (type.charset.map charsetParam).toList := by
  have whole : ';' ∉ type.kind.toList ++ '/' :: type.subtype.toList := by
    simp [canonical.kindWhole, canonical.subtypeWhole]
  cases given : type.charset with
  | none =>
      have written : type.render.toList = type.kind.toList ++ '/' :: type.subtype.toList := by
        simp [render, given]
      rw [written]
      exact List.splitOn_eq_singleton whole
  | some name =>
      have param : ';' ∉ charsetParam name := by
        simpa [charsetParam] using (canonical.charset name given).whole
      have written : type.render.toList =
          (type.kind.toList ++ '/' :: type.subtype.toList) ++ ';' :: charsetParam name := by
        simp [render, given, charsetParam]
      rw [written, Utf8.splitOn_append_of_not_mem _ whole, List.splitOn_cons_eq_if_modifyHead,
        if_pos (by decide), List.splitOn_eq_singleton param]
      simp

theorem Canonical.trim_essence {type : MediaType} (canonical : type.Canonical) :
    trim (type.kind.toList ++ '/' :: type.subtype.toList) =
      type.kind.toList ++ '/' :: type.subtype.toList := by
  apply trim_eq_self
  · intro c first
    apply canonical.opened
    rw [← first, List.head?_append_of_ne_nil _ canonical.kindFilled]
  · intro c last
    apply canonical.closed
    rw [← last, List.getLast?_append, List.getLast?_cons_of_ne_nil canonical.subtypeFilled,
      List.getLast?_eq_some_getLast canonical.subtypeFilled]
    rfl

theorem parameter?_charsetParam (name : String) :
    parameter? "charset".toList (charsetParam name) = some (trimEndWhile isBlank name.toList) := by
  have written : trim (charsetParam name) =
      "charset".toList ++ '=' :: trimEndWhile isBlank name.toList := by
    unfold charsetParam
    rw [List.cons_append, trim_cons_of_blank (by decide)]
    have final : "charset=".toList.getLast? = some '=' := by decide
    exact trimEndWhile_append final (by decide) _
  unfold parameter?
  rw [written, cut?_append (by decide)]
  rfl

/-- **What is read from the written form of a media type.** Only its charset can be another one. -/
theorem Canonical.parse?_render {type : MediaType} (canonical : type.Canonical) :
    parse? type.render = some { type with charset := type.charset.map readCharset } := by
  have filled : ¬(type.kind.toList = [] ∨ type.subtype.toList = []) := by
    simp [canonical.kindFilled, canonical.subtypeFilled]
  unfold parse?
  simp only [canonical.splitOn_render, canonical.trim_essence, cut?_append canonical.kindSlash,
    if_neg filled, String.ofList_toList, canonical.kindFolded, canonical.subtypeFolded]
  cases type.charset with
  | none => rfl
  | some name =>
      show some (MediaType.absorb _ (charsetParam name)) = _
      unfold MediaType.absorb
      rw [parameter?_charsetParam]
      rfl

/-- White space at the end of a charset is exactly what is not read again. -/
theorem IsCharset.readCharset_eq_iff {name : String} (kept : IsCharset name) :
    readCharset name = name ↔ name.toList.getLast?.any isBlank = false := by
  unfold readCharset
  cases last : name.toList.getLast? with
  | none =>
      rw [List.getLast?_eq_none_iff, String.toList_eq_nil_iff] at last
      rw [last]
      exact iff_of_true (by decide) rfl
  | some c =>
      rw [Option.any_some]
      constructor
      · intro same
        rw [← Bool.not_eq_true]
        intro blank
        obtain ⟨front, shape⟩ := List.getLast?_eq_some_iff.mp last
        have lengths := congrArg (fun text => text.toList.length) same
        simp only [toList_foldCase, String.toList_ofList, List.length_map] at lengths
        have shorter := (trimWhile_sublist (· == '"') (trimEndWhile isBlank name.toList)).length_le
        have cut := trimEndWhile_length_le isBlank front
        rw [← trimEndWhile_concat blank front, ← shape] at cut
        have whole := congrArg List.length shape
        rw [List.length_append, List.length_singleton] at whole
        omega
      · intro filled
        have ended : ∀ item, name.toList.getLast? = some item → isBlank item = false := by
          intro item same
          rw [last, Option.some.injEq] at same
          rw [← same, filled]
        rw [trimEndWhile_eq_self ended, trimWhile_eq_self kept.opened kept.closed,
          String.ofList_toList, kept.folded]

theorem Canonical.parse?_render_iff {type : MediaType} (canonical : type.Canonical) :
    parse? type.render = some type ↔ type.endsBlank = false := by
  rw [canonical.parse?_render]
  obtain ⟨kind, subtype, charset⟩ := type
  cases charset with
  | none => exact iff_of_true rfl rfl
  | some name => simpa [endsBlank] using (canonical.charset name rfl).readCharset_eq_iff

end MediaType

/-! ## Responses that carry the written form -/

/-- The first media type of a response is this one, as it is stored. -/
def Response.Declares (response : Response) (type : MediaType) : Prop :=
  response.headers.first? "Content-Type" = some (sanitize type.render)

theorem Response.declares_setHeader (response : Response) {name : String}
    (named : foldCase (sanitize name) = foldCase "Content-Type") (type : MediaType) :
    (response.setHeader name type.render).Declares type := by
  show ((response.headers.set name type.render).all? "Content-Type").bind _ = _
  rw [Headers.all?_set, if_pos named]
  rfl

theorem Response.declares_setTyped (response : Response) (type : MediaType) (body : Bytes) :
    (response.setTyped type body).Declares type := by
  have named : foldCase (sanitize "Content-Type") = foldCase "Content-Type" := by decide
  have declared := response.declares_setHeader named type
  show (((response.setHeader "Content-Type" type.render).headers.set "Content-Length" _).all?
    "Content-Type").bind _ = _
  rw [Headers.all?_set_of_ne (by decide)]
  exact declared

theorem Terminal.checkAcceptance_of_mediaType? {terminal : Terminal World} {response : Response}
    {type : MediaType} (strict : terminal.strictAcceptance = true)
    (declared : response.mediaType? = some type) (request : Request) :
    terminal.checkAcceptance response request =
      if request.isAcceptable type then .ok () else .error (.ofHttp (unacceptable type)) := by
  unfold Response.mediaType? at declared
  unfold checkAcceptance
  rw [if_pos strict, declared]
  rfl

/-- **A media type that is written reads back as itself.** Of the media types that any text can
give, those are read again from their written form whose charset does not end in white space, and no
others. A response declares such a type when the type is set as its `Content-Type`, or together
with a body; as long as it does and the written form can be stored, strict acceptance judges the
response by this very type. -/
theorem MediaType.parse?_render_of_parse? {raw : String} {type : MediaType}
    (read : parse? raw = some type) :
    (parse? type.render = some type ↔ type.endsBlank = false) ∧
      (∀ (response : Response) (name : String) (body : Bytes),
        (foldCase (sanitize name) = foldCase "Content-Type" →
          (response.setHeader name type.render).Declares type) ∧
            (response.setTyped type body).Declares type) ∧
      (type.endsBlank = false → Storable type.render →
        ∀ response : Response, response.Declares type →
          response.mediaType? = some type ∧
            ∀ (terminal : Terminal World) (request : Request), terminal.strictAcceptance = true →
              terminal.checkAcceptance response request =
                if request.isAcceptable type then .ok ()
                else .error (.ofHttp (unacceptable type))) := by
  have again := (canonical_of_parse? read).parse?_render_iff
  refine ⟨again, ?_, ?_⟩
  · intro response name body
    refine ⟨fun named => ?_, response.declares_setTyped type body⟩
    exact response.declares_setHeader named type
  · intro filled storable response declared
    have found : response.mediaType? = some type := by
      unfold Response.mediaType?
      rw [declared, Headers.sanitize_eq_self storable]
      exact again.mpr filled
    refine ⟨found, ?_⟩
    intro terminal request strict
    exact Terminal.checkAcceptance_of_mediaType? strict found request

/-- A type with spaces, slashes, quotes and signs inside, of the last of two charsets. -/
theorem MediaType.parse?_render_of_untidy :
    let type : MediaType := ⟨"a b", "c/d=\"e\"", some "is o/8=\"9"⟩
    parse? "A b/C/d=\"E\" ; q=1;charset=one; Charset=two; charset=\"Is o/8=\"9\"" = some type ∧
      Storable type.render ∧ parse? type.render = some type ∧
        ((Response.ofStatus .ok).setHeader "content-type" type.render).mediaType? = some type := by
  intro type
  have read : parse? "A b/C/d=\"E\" ; q=1;charset=one; Charset=two; charset=\"Is o/8=\"9\"" =
      some type := by decide
  have storable : Storable type.render := by
    unfold Storable
    exact List.all_eq_true.mp (by decide)
  have written := @parse?_render_of_parse? Unit _ _ read
  have declared := (written.2.1 (.ofStatus .ok) "content-type" []).1 (by decide)
  exact ⟨read, storable, written.1.mpr (by decide), (written.2.2 (by decide) storable _ declared).1⟩

/-- White space at the end of a quoted charset is lost when the type is written. -/
example : MediaType.parse? "a/b; charset=\"c \"" = some ⟨"a", "b", some "c "⟩ ∧
    MediaType.parse? (MediaType.mk "a" "b" (some "c ")).render = some ⟨"a", "b", some "c"⟩ := by
  decide

end HttpService
