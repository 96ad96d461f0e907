import HttpService.Proofs.Routing.Compiling
import HttpService.Proofs.Routing.Loading
import HttpService.Proofs.Routing.Substitution
import HttpService.Proofs.Text.Words

/-!
Contract: which rule files load, and what is wrong with the others.

Owns:
- the source and the target that may stand in a line, in terms of their characters;
- lines that may follow others, and what one such line makes of a table;
- the run over the lines of a file, which stops at the first line that may not follow;
- **that a rule file loads exactly if each of its lines may follow those before it**, what the table
  then holds, and which line is charged otherwise.

Does not own: words, compiled patterns, and the entries of a trie.
-/

namespace HttpService.Routing

open Text

/-! ## Sound rules -/

/-- A path as a rule may have it: it begins with a slash, and unless it is nothing but this slash it
neither ends with one nor holds an empty segment. -/
structure IsRulePath (path : List Char) : Prop where
  slashed : path.head? = some '/'
  filled : path = ['/'] ∨ path.getLast? ≠ some '/' ∧ ¬ ['/', '/'] <:+: path

/-- A source and a target that may stand in a line: the source has no query, both paths may stand in
a rule, the query of the target is plain, and all its references are bare names. -/
structure SoundRule (source target : List Char) : Prop where
  unasked : '?' ∉ source
  sourcePath : IsRulePath source
  targetPath : IsRulePath (before '?' target)
  plainQuery : ∀ path query, target = path ++ '?' :: query → '?' ∉ path → '?' ∉ query ∧ '/' ∉ query
  bare : ∀ front name back, target = front ++ writeReference name ++ back → '}' ∉ name →
    IsCaptureName name

/-! ## Checked paths -/

/-- An empty segment stands between two slashes, once slashes are put around the whole; one behind
the first segment does so without the slash in front. -/
theorem nil_mem_splitOn_iff (chars : List Char) :
    ([] ∈ chars.splitOn '/' ↔ ['/', '/'] <:+: '/' :: (chars ++ ['/'])) ∧
      ([] ∈ (chars.splitOn '/').tail ↔ ['/', '/'] <:+: chars ++ ['/']) := by
  induction chars with
  | nil => decide
  | cons c rest inductionHypothesis =>
      obtain ⟨whole, behind⟩ := inductionHypothesis
      rw [List.splitOn_cons_eq_if_modifyHead]
      by_cases slash : c = '/'
      · subst slash
        rw [if_pos (beq_self_eq_true '/')]
        refine ⟨iff_of_true List.mem_cons_self ?_, whole⟩
        exact List.IsPrefix.isInfix ⟨rest ++ ['/'], rfl⟩
      · have apart (others : List Char) : ['/', '/'] <:+: c :: others ↔ ['/', '/'] <:+: others := by
          simp [List.infix_cons_iff, Ne.symm slash]
        have front : ¬ ['/', '/'] <+: '/' :: c :: (rest ++ ['/']) := by
          simp [Ne.symm slash]
        rw [if_neg (by simpa using slash), List.cons_append, List.infix_cons_iff, apart, ← behind]
        simp only [front, false_or]
        cases rest.splitOn '/' <;> simp

/-- A text that does not end with a slash holds an empty segment where two slashes meet, the one in
front of it included. -/
theorem nil_mem_splitOn_of_ne {inner : List Char} (filled : inner ≠ [])
    (unslashed : inner.getLast? ≠ some '/') :
    [] ∈ inner.splitOn '/' ↔ ['/', '/'] <:+: '/' :: inner := by
  obtain ⟨front, c, rfl⟩ := (List.eq_nil_or_concat' inner).resolve_left filled
  rw [(nil_mem_splitOn_iff _).1, ← List.cons_append, List.infix_concat_iff, or_iff_right]
  rintro ⟨lead, ended⟩
  have last : (lead ++ ['/', '/']).dropLast.getLast? = some c := by
    rw [ended, List.dropLast_concat, ← List.cons_append, List.getLast?_concat]
  rw [List.getLast?_concat] at unslashed
  rw [← last] at unslashed
  exact unslashed (by simp)

theorem checkPath_eq_ok_iff {path : List Char} : checkPath path = .ok () ↔ IsRulePath path := by
  unfold checkPath
  split
  · exact iff_of_true rfl ⟨rfl, .inl rfl⟩
  · rename_i inner filled
    have last : ('/' :: inner).getLast? = inner.getLast? := by
      rw [List.getLast?_cons, List.getLast?_eq_some_getLast filled]
      rfl
    have valid : IsRulePath ('/' :: inner) ↔
        inner.getLast? ≠ some '/' ∧ ¬ ['/', '/'] <:+: '/' :: inner := by
      rw [← last]
      exact ⟨fun path => path.filled.resolve_left (by simpa using filled),
        fun ends => ⟨rfl, .inr ends⟩⟩
    rw [valid]
    by_cases slashed : inner.getLast? = some '/'
    · simp [slashed]
    · rw [if_neg slashed, ← nil_mem_splitOn_of_ne filled slashed]
      by_cases empty : [] ∈ inner.splitOn '/' <;> simp [slashed, empty]
  · rename_i unslashed
    refine iff_of_false (by simp) fun valid => ?_
    obtain ⟨inner, shape⟩ := List.head?_eq_some_iff.mp valid.slashed
    exact unslashed inner shape

/-! ## Checked targets -/

theorem fst_splitQuery (target : List Char) :
    (Destination.splitQuery target).1 = before '?' target := by
  unfold Destination.splitQuery
  cases cut : cut? '?' target with
  | none => exact (before_eq_self (cut?_eq_none_iff.mp cut)).symm
  | some parts => exact (before_of_cut? cut).symm

theorem checkQuery_eq_ok_iff {target : List Char} :
    checkQuery target (Destination.splitQuery target).2 = .ok () ↔
      ∀ path query, target = path ++ '?' :: query → '?' ∉ path → '?' ∉ query ∧ '/' ∉ query := by
  unfold Destination.splitQuery
  cases cut : cut? '?' target with
  | none =>
      refine iff_of_true rfl fun path query shape _ => ?_
      have absent := cut?_eq_none_iff.mp cut
      simp [shape] at absent
  | some parts =>
      obtain ⟨front, back⟩ := parts
      have only : (∀ path query, target = path ++ '?' :: query → '?' ∉ path →
          '?' ∉ query ∧ '/' ∉ query) ↔ '?' ∉ back ∧ '/' ∉ back := by
        constructor
        · exact fun each => each front back (eq_append_of_cut? cut) (not_mem_of_cut? cut)
        · rintro plain path query rfl unasked
          rw [cut?_append unasked, Option.some.injEq, Prod.mk.injEq] at cut
          exact cut.2 ▸ plain
      rw [only, ← not_or]
      simp [checkQuery]

/-- A reference that is read stands in the text. -/
theorem exists_of_reference_mem {chars name : List Char} (member : .reference name ∈ pieces chars) :
    ∃ front back, chars = front ++ writeReference name ++ back ∧ '}' ∉ name := by
  induction chars using template_induction with
  | done =>
      rw [pieces] at member
      cases member
  | plain c rest unreferenced inductionHypothesis =>
      rw [pieces_of_unreferenced unreferenced, List.mem_cons] at member
      obtain ⟨front, back, rfl, closed⟩ := inductionHypothesis (member.resolve_left (by simp))
      exact ⟨c :: front, back, rfl, closed⟩
  | reference other after closed inductionHypothesis =>
      rw [pieces_writeReference closed, List.mem_cons] at member
      rcases member with same | later
      · cases same
        exact ⟨[], after, rfl, closed⟩
      · obtain ⟨front, back, rfl, closed⟩ := inductionHypothesis later
        exact ⟨writeReference other ++ front, back, by simp, closed⟩

/-- What looks like a reference at the front of a text is the reference that is read there. -/
theorem writeReference_inj {name other back after : List Char} (closed : '}' ∉ name)
    (closedOther : '}' ∉ other) (same : writeReference name ++ back = writeReference other ++ after) :
    name = other := by
  have read := congrArg pieces same
  rw [pieces_writeReference closed, pieces_writeReference closedOther, List.cons.injEq] at read
  exact Piece.reference.inj read.1

theorem dollar_not_mem_name {name : List Char} (isName : IsCaptureName name) : '$' ∉ name := by
  intro member
  rcases isName.2 '$' member with word | hyphen
  · cases word
  · cases hyphen

/-- The references of a text are bare names exactly if all that looks like a reference is one: none can
begin inside another that is a bare name. -/
theorem bare_iff {chars : List Char} :
    Bare chars ↔ ∀ front name back, chars = front ++ writeReference name ++ back → '}' ∉ name →
      IsCaptureName name := by
  constructor
  · intro bare
    induction chars using template_induction with
    | done => simp [writeReference]
    | plain c rest unreferenced inductionHypothesis =>
        have read := pieces_of_unreferenced unreferenced
        intro front name back shape closed
        cases front with
        | nil => exact absurd shape (unreferenced name back closed)
        | cons first front =>
            exact inductionHypothesis (bare.behind read) front name back (List.cons.inj shape).2 closed
    | reference other after closedOther inductionHypothesis =>
        have named := isName_iff.mp (bare.isName_of_writeReference closedOther)
        have further := inductionHypothesis fun inside member =>
          bare inside (pieces_writeReference closedOther after ▸ List.mem_cons_of_mem _ member)
        intro front name back shape closed
        rw [List.append_assoc, List.append_eq_append_iff] at shape
        rcases shape with ⟨between, rfl, rest⟩ | ⟨inside, split, rest⟩
        · exact further between name back (by rw [rest, List.append_assoc]) closed
        · cases inside with
          | nil => exact further [] name back rest.symm closed
          | cons c inside =>
              -- It begins in the reference, hence at its `$`.
              have dollar : '$' = c := by
                rw [writeReference_append] at rest
                exact (List.cons.inj rest).1
              cases front with
              | nil =>
                  rw [List.nil_append] at split
                  rw [← split] at rest
                  exact writeReference_inj closed closedOther rest ▸ named
              | cons first front =>
                  have member : '$' ∈ '{' :: (other ++ ['}']) := by
                    rw [(List.cons.inj split).2, dollar]
                    simp
                  exact absurd (by simpa using member) (dollar_not_mem_name named)
  · intro each name member
    obtain ⟨front, back, shape, closed⟩ := exists_of_reference_mem member
    exact isName_iff.mpr (each front name back shape closed)

theorem checkReferences_eq_ok_iff {target : List Char} :
    checkReferences target = .ok () ↔ Bare target := by
  have unfound : firstInvalidReference? (String.ofList target) = none ↔ Bare target := by
    unfold firstInvalidReference?
    rw [String.toList_ofList, List.findSome?_eq_none_iff]
    constructor
    · intro valid name member
      simpa using valid _ member
    · intro bare piece member
      cases piece with
      | char c => rfl
      | reference name => simpa using bare name member
  rw [← unfound]
  unfold checkReferences
  cases firstInvalidReference? (String.ofList target) with
  | none => simp
  | some reference => simp

/-! ## Rules and lines -/

section

variable {source target : List Char}

theorem soundRule_iff :
    SoundRule source target ↔
      '?' ∉ source ∧ checkPath source = .ok () ∧ checkTarget target = .ok () := by
  have checked : checkTarget target = .ok () ↔ checkPath (Destination.splitQuery target).1 = .ok () ∧
      checkQuery target (Destination.splitQuery target).2 = .ok () ∧
        checkReferences target = .ok () := by
    unfold checkTarget
    cases checkPath (Destination.splitQuery target).1 with
    | error fault => simp
    | ok _ =>
        cases checkQuery target (Destination.splitQuery target).2 with
        | error fault => simp
        | ok _ => simp
  rw [checked, checkPath_eq_ok_iff, checkPath_eq_ok_iff, fst_splitQuery, checkQuery_eq_ok_iff,
    checkReferences_eq_ok_iff, bare_iff]
  constructor
  · rintro ⟨unasked, sourcePath, targetPath, plainQuery, bare⟩
    exact ⟨unasked, sourcePath, targetPath, plainQuery, bare⟩
  · rintro ⟨unasked, sourcePath, targetPath, plainQuery, bare⟩
    exact ⟨unasked, sourcePath, targetPath, plainQuery, bare⟩

theorem readRule_of_sound (sound : SoundRule source target) :
    readRule source target =
      .ok (if source = target then .same (String.ofList source)
        else .rule (String.ofList source) (String.ofList target)) := by
  obtain ⟨unasked, sourceChecked, targetChecked⟩ := soundRule_iff.mp sound
  unfold readRule
  rw [if_neg unasked, sourceChecked, targetChecked]
  exact (apply_ite Except.ok _ _ _).symm

theorem readRule_of_unsound (unsound : ¬ SoundRule source target) :
    ∃ fault, readRule source target = .error fault := by
  rw [soundRule_iff] at unsound
  unfold readRule
  split
  · exact ⟨_, rfl⟩
  · rename_i unasked
    cases sourceChecked : checkPath source with
    | error fault => exact ⟨fault, rfl⟩
    | ok _ =>
        cases targetChecked : checkTarget target with
        | error fault => exact ⟨fault, rfl⟩
        | ok _ => exact absurd ⟨unasked, sourceChecked, targetChecked⟩ unsound

/-- What is left of a line without its comment and the white space around it. -/
def content (line : List Char) : List Char :=
  trim (before '#' line)

variable {line : List Char}

theorem readLine_of_words (words : TwoWords (content line) source target) :
    readLine line = readRule source target := by
  have separated := words.blankSeparated_eq
  unfold content at separated
  unfold readLine
  split
  · rename_i blank
    rw [blank] at separated
    cases separated
  · rw [separated]

theorem readLine_of_blank (blank : content line = []) : readLine line = .ok .blank := by
  unfold content at blank
  unfold readLine
  rw [blank]

theorem readLine_of_other (filled : content line ≠ [])
    (other : ∀ source target, ¬ TwoWords (content line) source target) :
    ∃ fault, readLine line = .error fault := by
  unfold content at filled other
  unfold readLine
  split
  · rename_i blank
    exact absurd blank filled
  · split
    · rename_i source target separated
      exact absurd (blankSeparated_trim_eq_pair_iff.mp separated) (other source target)
    · exact ⟨_, rfl⟩

/-- Nothing is left of a line, or two words that make a rule, or it is refused by itself. -/
theorem readLine_cases (line : List Char) :
    content line = [] ∧ readLine line = .ok .blank ∨
    (∃ source target, TwoWords (content line) source target ∧ SoundRule source target ∧
      readLine line = .ok (if source = target then .same (String.ofList source)
        else .rule (String.ofList source) (String.ofList target))) ∨
    content line ≠ [] ∧
      (∀ source target, TwoWords (content line) source target → ¬ SoundRule source target) ∧
      ∃ fault, readLine line = .error fault := by
  by_cases blank : content line = []
  · exact .inl ⟨blank, readLine_of_blank blank⟩
  · by_cases two : ∃ source target, TwoWords (content line) source target
    · obtain ⟨source, target, words⟩ := two
      by_cases sound : SoundRule source target
      · refine .inr (.inl ⟨source, target, words, sound, ?_⟩)
        rw [readLine_of_words words, readRule_of_sound sound]
      · refine .inr (.inr ⟨blank, ?_, ?_⟩)
        · intro other further same
          obtain ⟨rfl, rfl⟩ := words.unique same
          exact sound
        · rw [readLine_of_words words]
          exact readRule_of_unsound sound
    · simp only [not_exists] at two
      exact .inr (.inr ⟨blank, fun source target words => absurd words (two source target),
        readLine_of_other blank two⟩)

theorem readLine_eq_rule_iff {first second : String} :
    readLine line = .ok (.rule first second) ↔
      ∃ source target, TwoWords (content line) source target ∧ SoundRule source target ∧
        source ≠ target ∧ first = String.ofList source ∧ second = String.ofList target := by
  constructor
  · intro read
    rcases readLine_cases line with ⟨-, blank⟩ | ⟨source, target, words, sound, ruled⟩ |
        ⟨-, -, fault, refused⟩
    · rw [blank] at read
      cases read
    · rw [ruled] at read
      split at read
      · cases read
      · rename_i moves
        cases read
        exact ⟨source, target, words, sound, moves, rfl, rfl⟩
    · rw [refused] at read
      cases read
  · rintro ⟨source, target, words, sound, moves, rfl, rfl⟩
    rw [readLine_of_words words, readRule_of_sound sound, if_neg moves]

end

/-- A line that holds a rule: two words, a source and a target that may stand in a line, that are not
the same. -/
structure HoldsRule (line source target : List Char) (pattern : Pattern) : Prop where
  words : TwoWords (content line) source target
  sound : SoundRule source target
  moves : source ≠ target
  compiled : Pattern.ofRewrite (String.ofList source) = .ok pattern

/-- A line that may follow some others: nothing is left of it, or two words that make a rule. Unless
they are the same, the source is compiled to a structure that no rule of the others has. -/
def Acceptable (earlier : List (List Char)) (line : List Char) : Prop :=
  content line = [] ∨ ∃ source target, TwoWords (content line) source target ∧
    SoundRule source target ∧ (source ≠ target →
      ∃ pattern, Pattern.ofRewrite (String.ofList source) = .ok pattern ∧
        ∀ other ∈ earlier, ∀ otherSource otherTarget otherPattern,
          HoldsRule other otherSource otherTarget otherPattern → otherPattern.keys ≠ pattern.keys)

/-- Lines each of which may follow those before it. -/
def EachAcceptable (lines : List (List Char)) : Prop :=
  ∀ front line back, lines = front ++ line :: back → Acceptable front line

/-- The rules of some lines in their order, one for each line whose two words differ. -/
inductive Yields : List (List Char) → List (Pattern × Destination) → Prop where
  | done : Yields [] []
  | passed {line : List Char} {lines : List (List Char)} {rules : List (Pattern × Destination)}
      (none : ∀ source target, TwoWords (content line) source target → source = target)
      (rest : Yields lines rules) : Yields (line :: lines) rules
  | kept {line source target : List Char} {pattern : Pattern} {lines : List (List Char)}
      {rules : List (Pattern × Destination)} (words : TwoWords (content line) source target)
      (moves : source ≠ target) (compiled : Pattern.ofRewrite (String.ofList source) = .ok pattern)
      (rest : Yields lines rules) :
      Yields (line :: lines) ((pattern, Destination.ofString (String.ofList target)) :: rules)

section

variable {line : List Char} {earlier : List (List Char)} {pattern : Pattern}
  {destination : Destination}

theorem ruleOf?_eq_some_iff :
    ruleOf? line = some (pattern, destination) ↔ ∃ source target,
      HoldsRule line source target pattern ∧
        destination = Destination.ofString (String.ofList target) := by
  unfold ruleOf?
  constructor
  · intro held
    split at held
    · rename_i first second read
      obtain ⟨source, target, words, sound, moves, rfl, rfl⟩ := readLine_eq_rule_iff.mp read
      split at held
      · rename_i compiled
        cases held
        exact ⟨source, target, ⟨words, sound, moves, compiled⟩, rfl⟩
      · cases held
    · cases held
  · rintro ⟨source, target, holds, rfl⟩
    have read := readLine_eq_rule_iff.mpr
      ⟨source, target, holds.words, holds.sound, holds.moves, rfl, rfl⟩
    rw [read]
    simp only [holds.compiled]

theorem ne_keys_iff {keys : List Key} :
    (∀ inserted ∈ earlier.filterMap ruleOf?, inserted.1.keys ≠ keys) ↔
      ∀ other ∈ earlier, ∀ source target pattern, HoldsRule other source target pattern →
        pattern.keys ≠ keys := by
  constructor
  · intro apart other member source target pattern holds
    exact apart _ (List.mem_filterMap.mpr
      ⟨other, member, ruleOf?_eq_some_iff.mpr ⟨source, target, holds, rfl⟩⟩)
  · rintro apart ⟨pattern, destination⟩ inserted
    obtain ⟨other, member, held⟩ := List.mem_filterMap.mp inserted
    obtain ⟨source, target, holds, -⟩ := ruleOf?_eq_some_iff.mp held
    exact apart other member source target pattern holds

/-- A line is acceptable exactly if it can be read, and its rule, if it holds one, is compiled to a
structure that is new. -/
theorem acceptable_iff :
    Acceptable earlier line ↔ ∃ read, readLine line = .ok read ∧
      ∀ source target, read = .rule source target →
        ∃ pattern, Pattern.ofRewrite source = .ok pattern ∧
          ∀ inserted ∈ earlier.filterMap ruleOf?, inserted.1.keys ≠ pattern.keys := by
  simp only [ne_keys_iff]
  constructor
  · rintro (blank | ⟨source, target, words, sound, new⟩)
    · exact ⟨.blank, readLine_of_blank blank, by simp⟩
    · refine ⟨_, (readLine_of_words words).trans (readRule_of_sound sound), ?_⟩
      intro first second ruled
      split at ruled
      · cases ruled
      · rename_i moves
        cases ruled
        exact new moves
  · rintro ⟨read, found, new⟩
    rcases readLine_cases line with ⟨blank, -⟩ | ⟨source, target, words, sound, ruled⟩ |
        ⟨-, -, fault, refused⟩
    · exact .inl blank
    · refine .inr ⟨source, target, words, sound, fun moves => ?_⟩
      rw [found, if_neg moves] at ruled
      exact new _ _ (Except.ok.inj ruled)
    · rw [found] at refused
      cases refused

theorem Acceptable.alone (acceptable : Acceptable earlier line) : Acceptable [] line := by
  rcases acceptable with blank | ⟨source, target, words, sound, new⟩
  · exact .inl blank
  · refine .inr ⟨source, target, words, sound, fun moves => ?_⟩
    obtain ⟨pattern, compiled, -⟩ := new moves
    exact ⟨pattern, compiled, nofun⟩

theorem EachAcceptable.concat (each : EachAcceptable earlier) (last : Acceptable earlier line) :
    EachAcceptable (earlier ++ [line]) := by
  intro front other back shape
  rcases List.eq_nil_or_concat' back with rfl | ⟨inside, final, rfl⟩
  · obtain ⟨rfl, same⟩ := List.append_inj_left' shape rfl, List.append_inj_right' shape rfl
    cases same
    exact last
  · rw [← List.cons_append, ← List.append_assoc] at shape
    exact each front other inside (List.append_inj_left' shape rfl)

theorem EachAcceptable.alone {lines : List (List Char)} (each : EachAcceptable lines) :
    ∀ line ∈ lines, Acceptable [] line := by
  intro line member
  obtain ⟨front, back, shape⟩ := List.append_of_mem member
  exact (each front line back shape).alone

/-- A line that is acceptable adds its rule, if its two words differ. -/
theorem Yields.of_acceptable {lines : List (List Char)}
    (each : ∀ line ∈ lines, Acceptable [] line) : Yields lines (lines.filterMap ruleOf?) := by
  induction lines with
  | nil => exact .done
  | cons line rest inductionHypothesis =>
      have further := inductionHypothesis fun other member =>
        each other (List.mem_cons_of_mem line member)
      cases held : ruleOf? line with
      | some rule =>
          obtain ⟨pattern, destination⟩ := rule
          obtain ⟨source, target, holds, rfl⟩ := ruleOf?_eq_some_iff.mp held
          rw [List.filterMap_cons_some held]
          exact .kept holds.words holds.moves holds.compiled further
      | none =>
          rw [List.filterMap_cons_none held]
          refine .passed (fun source target words => ?_) further
          rcases each line List.mem_cons_self with blank | ⟨first, second, same, sound, new⟩
          · exact absurd blank words.ne_nil
          · obtain ⟨rfl, rfl⟩ := words.unique same
            by_contra moves
            obtain ⟨pattern, compiled, -⟩ := new moves
            have ruled := ruleOf?_eq_some_iff.mpr
              ⟨source, target, ⟨words, sound, moves, compiled⟩, rfl⟩
            rw [held] at ruled
            cases ruled

end

/-! ## Loading -/

namespace RewriteTable

/-- A table that holds the rules of some acceptable lines. -/
structure Loaded (lines : List (List Char)) (table : RewriteTable) : Prop where
  acceptable : EachAcceptable lines
  rules : table.rules = Trie.ofInsertions (lines.filterMap ruleOf?)
  distinct : ((lines.filterMap ruleOf?).map (·.1.keys)).Nodup

section

variable {table after : RewriteTable} {earlier : List (List Char)} {line : List Char}

theorem Loaded.contains_eq_false_iff (loaded : Loaded earlier table) {pattern : Pattern} :
    table.rules.contains pattern = false ↔
      ∀ inserted ∈ earlier.filterMap ruleOf?, inserted.1.keys ≠ pattern.keys := by
  rw [loaded.rules, ← Bool.not_eq_true, Trie.contains_ofInsertions_iff]
  simp only [not_exists, not_and, ne_eq]

/-- What a further line has to satisfy to be added. -/
theorem exists_addLine_iff :
    (∃ after, table.addLine line = .ok after) ↔ ∃ read, readLine line = .ok read ∧
      ∀ source target, read = .rule source target →
        ∃ pattern, Pattern.ofRewrite source = .ok pattern ∧ table.rules.contains pattern = false := by
  unfold addLine
  cases readLine line with
  | error fault => simp
  | ok read =>
      cases read with
      | blank => simp
      | same path => simp
      | rule source target =>
          cases compiled : Pattern.ofRewrite source with
          | error error => simp [addRule, compiled]
          | ok pattern =>
              cases known : table.rules.contains pattern <;> simp [addRule, compiled, known]

theorem Loaded.exists_addLine_iff (loaded : Loaded earlier table) :
    (∃ after, table.addLine line = .ok after) ↔ Acceptable earlier line := by
  simp only [RewriteTable.exists_addLine_iff, acceptable_iff, loaded.contains_eq_false_iff]

/-- A line that is added keeps the structures distinct. -/
theorem Loaded.concat (loaded : Loaded earlier table) (added : table.addLine line = .ok after) :
    Loaded (earlier ++ [line]) after := by
  have rules := rules_addLine added
  have acceptable := loaded.exists_addLine_iff.mp ⟨after, added⟩
  obtain ⟨read, found, new⟩ := acceptable_iff.mp acceptable
  cases held : ruleOf? line with
  | none =>
      rw [held] at rules
      refine ⟨loaded.acceptable.concat acceptable, ?_, ?_⟩
      · rw [rules, loaded.rules, List.filterMap_append]
        simp [held]
      · rw [List.filterMap_append]
        simpa [held] using loaded.distinct
  | some rule =>
      obtain ⟨pattern, destination⟩ := rule
      rw [held] at rules
      obtain ⟨source, target, holds, -⟩ := ruleOf?_eq_some_iff.mp held
      have ruled := readLine_eq_rule_iff.mpr
        ⟨source, target, holds.words, holds.sound, holds.moves, rfl, rfl⟩
      rw [found] at ruled
      obtain ⟨same, compiled, apart⟩ := new _ _ (Except.ok.inj ruled)
      rw [holds.compiled] at compiled
      cases compiled
      have split : (earlier ++ [line]).filterMap ruleOf? =
          earlier.filterMap ruleOf? ++ [(pattern, destination)] := by
        rw [List.filterMap_append]
        simp [held]
      refine ⟨loaded.acceptable.concat acceptable, ?_, ?_⟩
      · rw [rules, loaded.rules, split, Trie.ofInsertions_concat]
      · rw [split, List.map_append, List.nodup_append]
        refine ⟨loaded.distinct, List.nodup_singleton _, ?_⟩
        rintro keys member _ (only : _ ∈ [pattern.keys]) rfl
        obtain ⟨inserted, among, shown⟩ := List.mem_map.mp member
        exact apart inserted among (shown.trans (List.mem_singleton.mp only))

/-- A line that is refused although it can stand alone is charged with its source. -/
theorem duplicateSource_of_addLine {fault : LineFault} (refused : table.addLine line = .error fault)
    (alone : Acceptable [] line) :
    ∃ source target, TwoWords (content line) source target ∧
      fault = .duplicateSource (String.ofList source) := by
  obtain ⟨read, found, new⟩ := acceptable_iff.mp alone
  unfold addLine at refused
  rw [found] at refused
  cases read with
  | blank => cases refused
  | same path => cases refused
  | rule first second =>
      obtain ⟨source, target, words, -, -, rfl, -⟩ := readLine_eq_rule_iff.mp found
      obtain ⟨pattern, compiled, -⟩ := new _ _ rfl
      simp only [addRule, compiled] at refused
      split at refused
      · exact ⟨source, target, words, (Except.error.inj refused).symm⟩
      · cases refused

/-- **A run over the lines of a file either loads all of them, or stops at the first one that is not
acceptable.** -/
theorem Loaded.addLines (rest : List (List Char)) (loaded : Loaded earlier table) :
    (∃ after, table.addLines (earlier.length + 1) rest = .ok after ∧
      Loaded (earlier ++ rest) after) ∨
    ∃ front line back fault, earlier ++ rest = front ++ line :: back ∧
      table.addLines (earlier.length + 1) rest = .error (.line (front.length + 1) fault) ∧
      EachAcceptable front ∧ ¬ Acceptable front line ∧
      (Acceptable [] line → ∃ source target, TwoWords (content line) source target ∧
        fault = .duplicateSource (String.ofList source)) := by
  -- On the lines that are left; the table holds the rules of those that have been added.
  induction rest generalizing earlier table with
  | nil => exact .inl ⟨table, rfl, (List.append_nil earlier).symm ▸ loaded⟩
  | cons line rest inductionHypothesis =>
      rw [RewriteTable.addLines]
      cases added : table.addLine line with
      | ok next =>
          have further := inductionHypothesis (loaded.concat added)
          rw [List.length_append, List.append_assoc] at further
          exact further
      | error fault =>
          have refused : ¬ Acceptable earlier line := by
            rw [← loaded.exists_addLine_iff, added]
            simp
          exact .inr ⟨earlier, line, rest, fault, rfl, rfl, loaded.acceptable, refused,
            duplicateSource_of_addLine added⟩

end

theorem loaded_empty : Loaded [] empty :=
  ⟨by simp [EachAcceptable], rfl, List.nodup_nil⟩

/-- **A rule file loads exactly if each of its lines may follow those before it.** The table then holds
the rules of the lines whose two words differ, one for each in their order, and nothing else. Otherwise
the error carries the number of the first line that may not follow those before it, and if this line
could stand alone, its source is what the error names as a duplicate. -/
theorem parse_exactly (contents : String) :
    ((∃ table, parse contents = .ok table) ↔ EachAcceptable (lines contents)) ∧
      (∀ table, parse contents = .ok table → ∃ rules, Yields (lines contents) rules ∧
        table.rules = Trie.ofInsertions rules ∧ table.rules.toList = rules ∧
          table.size = rules.length) ∧
      ∀ error, parse contents = .error error → ∃ front line back fault,
        lines contents = front ++ line :: back ∧ error = .line (front.length + 1) fault ∧
          EachAcceptable front ∧ ¬ Acceptable front line ∧
          (Acceptable [] line → ∃ source target, TwoWords (content line) source target ∧
            fault = .duplicateSource (String.ofList source)) := by
  unfold parse
  rcases loaded_empty.addLines (lines contents) with ⟨after, ran, loaded⟩ |
      ⟨front, line, back, fault, shape, ran, acceptable, refused, charged⟩
  · rw [List.length_nil, Nat.zero_add] at ran
    rw [List.nil_append] at loaded
    rw [ran]
    refine ⟨iff_of_true ⟨after, rfl⟩ loaded.acceptable, ?_, nofun⟩
    intro table same
    cases same
    obtain ⟨listed, counted⟩ := Trie.toList_ofInsertions_of_distinct loaded.distinct
    refine ⟨_, .of_acceptable loaded.acceptable.alone, loaded.rules, ?_, ?_⟩
    · rw [loaded.rules, listed]
    · rw [← counted, ← loaded.rules]
      rfl
  · rw [List.length_nil, Nat.zero_add] at ran
    rw [List.nil_append] at shape
    rw [ran]
    refine ⟨iff_of_false nofun fun each => refused (each front line back shape), nofun, ?_⟩
    intro error same
    cases same
    exact ⟨front, line, back, fault, shape, rfl, acceptable, refused, charged⟩

-- The names of captures are no part of a structure, and lines without rules count.
example : (match parse "/$\x7bx\x7d /b # first\n\n/c /c\n/$\x7by\x7d /d" with
    | .ok _ => none
    | .error error => some error) = some (.line 4 (.duplicateSource "/$\x7by\x7d")) := by
  cbv

end RewriteTable

end HttpService.Routing
