import Mathlib.Data.List.Forall2
import HttpService.Text.Word

/-!
Contract: regular expressions, as far as texts are matched against one that is put together from
literal pieces.

Owns:
- the part of the syntax with literals, classes, groups, alternatives, `?`, `+` and the two anchors,
  and a reader for it, which reads no other text;
- what an expression matches between two pieces of a text, and when it is found in a text;
- the escaped form of a text;
- **how the texts of expressions are put together**: in sequence, in groups of alternatives, and
  under `?` and `+`;
- what sequences, alternatives, repetitions and escaped texts match.

Does not own: which expressions a service uses.
-/

namespace HttpService.Text

/-! ## Syntax -/

/-- A member of a class of characters. -/
inductive Member where
  | char (own : Char)
  | word
  | digit
deriving DecidableEq, Repr

def Member.holds (member : Member) (c : Char) : Bool :=
  match member with
  | char own => c == own
  | word => isWord c
  | digit => isDecimal c

inductive Expression where
  | nothing
  | one (members : List Member)
  | sequence (first second : Expression)
  | either (first second : Expression)
  | optional (inner : Expression)
  | repeated (inner : Expression)
  | start
  | stop
deriving DecidableEq, Repr

namespace Expression

/-- Expressions in sequence. -/
def all : List Expression → Expression
  | [] => nothing
  | first :: rest => sequence first (all rest)

/-- The alternatives of a group. -/
def any : List Expression → Expression
  | [] => one []
  | [only] => only
  | first :: second :: rest => either first (any (second :: rest))

/-- The characters of a text in sequence. -/
def literal (text : List Char) : Expression :=
  all (text.map fun c => one [.char c])

/-! ## Matching -/

/-- What an expression matches, with what stands in front of it and behind. -/
inductive Matches : Expression → List Char → List Char → List Char → Prop where
  | nothing {front back : List Char} : Matches nothing front [] back
  | one {members : List Member} {member : Member} {c : Char} {front back : List Char}
      (among : member ∈ members) (holds : member.holds c = true) :
      Matches (one members) front [c] back
  | sequence {first second : Expression} {front early late back : List Char}
      (begins : Matches first front early (late ++ back))
      (ends : Matches second (front ++ early) late back) :
      Matches (sequence first second) front (early ++ late) back
  | left {first second : Expression} {front inside back : List Char}
      (matched : Matches first front inside back) : Matches (either first second) front inside back
  | right {first second : Expression} {front inside back : List Char}
      (matched : Matches second front inside back) : Matches (either first second) front inside back
  | absent {inner : Expression} {front back : List Char} : Matches (optional inner) front [] back
  | present {inner : Expression} {front inside back : List Char}
      (matched : Matches inner front inside back) : Matches (optional inner) front inside back
  | once {inner : Expression} {front inside back : List Char}
      (matched : Matches inner front inside back) : Matches (repeated inner) front inside back
  | again {inner : Expression} {front early late back : List Char}
      (begins : Matches inner front early (late ++ back))
      (ends : Matches (repeated inner) (front ++ early) late back) :
      Matches (repeated inner) front (early ++ late) back
  | start {back : List Char} : Matches start [] [] back
  | stop {front : List Char} : Matches stop front [] []

/-- An expression is found in a text if it matches some piece of it. -/
def Found (expression : Expression) (text : List Char) : Prop :=
  ∃ front inside back, text = front ++ inside ++ back ∧ expression.Matches front inside back

/-! ## Reading -/

/-- The characters that mean something else than themselves. -/
def isMeta (c : Char) : Bool :=
  ['\\', '.', '+', '*', '?', '(', ')', '|', '[', ']', '\x7b', '\x7d', '^', '$', '#', '&', '-',
    '~'].contains c

/-- The text that stands for a text itself. -/
def escape (text : List Char) : List Char :=
  text.flatMap fun c => if isMeta c then ['\\', c] else [c]

/-- A group with some texts as its alternatives. -/
def grouped (texts : List (List Char)) : List Char :=
  '(' :: (['|'].intercalate texts ++ [')'])

/-- What a character means behind a backslash. -/
def escaped? (c : Char) : Option Member :=
  if c = 'w' then some .word
  else if c = 'd' then some .digit
  else if isMeta c then some (.char c)
  else none

/-- A group that is being read: the alternatives that are complete and the parts of the current one,
the latest in front. -/
structure Group where
  branches : List Expression
  parts : List Expression

namespace Group

def empty : Group := ⟨[], []⟩

def push (group : Group) (part : Expression) : Group :=
  { group with parts := part :: group.parts }

/-- The current alternative is complete. -/
def branch (group : Group) : Group :=
  ⟨all group.parts.reverse :: group.branches, []⟩

/-- Changes the latest part of the current alternative, if there is one. -/
def change? (group : Group) (change : Expression → Expression) : Option Group :=
  match group.parts with
  | [] => none
  | last :: earlier => some { group with parts := change last :: earlier }

def close (group : Group) : Expression :=
  any group.branch.branches.reverse

end Group

/-- Where in the syntax a reader is. -/
inductive Mode where
  | plain
  | escaped
  /-- In a class, with its members so far. -/
  | inClass (members : List Member)
  | escapedInClass (members : List Member)
  /-- Behind a hyphen in a class. -/
  | hyphened (members : List Member)

/-- A reader: its mode, the innermost group and the groups around it. -/
structure Reader where
  mode : Mode
  group : Group
  outer : List Group

namespace Reader

def push (reader : Reader) (part : Expression) : Reader :=
  { reader with mode := .plain, group := reader.group.push part }

def stepPlain (reader : Reader) (c : Char) : Option Reader :=
  match c with
  | '(' => some { reader with group := .empty, outer := reader.group :: reader.outer }
  | ')' =>
      match reader.outer with
      | [] => none
      | group :: outer => some ⟨.plain, group.push reader.group.close, outer⟩
  | '|' => some { reader with group := reader.group.branch }
  | '?' => (reader.group.change? optional).map fun group => { reader with group := group }
  | '+' => (reader.group.change? repeated).map fun group => { reader with group := group }
  | '^' => some (reader.push start)
  | '$' => some (reader.push stop)
  | '\\' => some { reader with mode := .escaped }
  | '[' => some { reader with mode := .inClass [] }
  | c => if isMeta c then none else some (reader.push (one [.char c]))

/-- Reads a character in a class. A class may not be empty, and of a range nothing is read. -/
def stepInClass (reader : Reader) (members : List Member) (c : Char) : Option Reader :=
  match c with
  | ']' => if members = [] then none else some (reader.push (one members))
  | '\\' => some { reader with mode := .escapedInClass members }
  | '-' => some { reader with mode := .hyphened members }
  | c => if isMeta c then none else some { reader with mode := .inClass (members ++ [.char c]) }

def step (reader : Reader) (c : Char) : Option Reader :=
  match reader.mode with
  | .plain => reader.stepPlain c
  | .escaped => (escaped? c).map fun member => reader.push (one [member])
  | .inClass members => reader.stepInClass members c
  | .escapedInClass members =>
      (escaped? c).map fun member => { reader with mode := .inClass (members ++ [member]) }
  | .hyphened members =>
      if c = ']' then some (reader.push (one (members ++ [.char '-']))) else none

def finish? (reader : Reader) : Option Expression :=
  match reader with
  | ⟨.plain, group, []⟩ => some group.close
  | _ => none

end Reader

/-- The expression that a text stands for, if it can be read. -/
def read? (text : List Char) : Option Expression :=
  (text.foldlM Reader.step ⟨.plain, .empty, []⟩).bind Reader.finish?

/-! ## What is matched -/

section

variable {front inside back : List Char} {members : List Member} {first second inner : Expression}

theorem matches_nothing_iff : nothing.Matches front inside back ↔ inside = [] := by
  constructor
  · rintro ⟨⟩
    rfl
  · rintro rfl
    exact .nothing

theorem matches_one_iff :
    (one members).Matches front inside back ↔
      ∃ c, inside = [c] ∧ ∃ member ∈ members, member.holds c = true := by
  constructor
  · rintro ⟨⟩
    rename_i member c holds among
    exact ⟨c, rfl, member, among, holds⟩
  · rintro ⟨c, rfl, member, among, holds⟩
    exact .one among holds

theorem matches_sequence_iff :
    (sequence first second).Matches front inside back ↔
      ∃ early late, inside = early ++ late ∧ first.Matches front early (late ++ back) ∧
        second.Matches (front ++ early) late back := by
  constructor
  · rintro ⟨⟩
    rename_i early late begins ends
    exact ⟨early, late, rfl, begins, ends⟩
  · rintro ⟨early, late, rfl, begins, ends⟩
    exact .sequence begins ends

theorem matches_either_iff :
    (either first second).Matches front inside back ↔
      first.Matches front inside back ∨ second.Matches front inside back := by
  constructor
  · intro matched
    cases matched with
    | left matched => exact .inl matched
    | right matched => exact .inr matched
  · rintro (matched | matched)
    · exact .left matched
    · exact .right matched

theorem matches_optional_iff :
    (optional inner).Matches front inside back ↔ inside = [] ∨ inner.Matches front inside back := by
  constructor
  · intro matched
    cases matched with
    | absent => exact .inl rfl
    | present matched => exact .inr matched
  · rintro (rfl | matched)
    · exact .absent
    · exact .present matched

theorem matches_start_iff : start.Matches front inside back ↔ front = [] ∧ inside = [] := by
  constructor
  · rintro ⟨⟩
    exact ⟨rfl, rfl⟩
  · rintro ⟨rfl, rfl⟩
    exact .start

theorem matches_stop_iff : stop.Matches front inside back ↔ inside = [] ∧ back = [] := by
  constructor
  · rintro ⟨⟩
    exact ⟨rfl, rfl⟩
  · rintro ⟨rfl, rfl⟩
    exact .stop

/-- One of the alternatives is matched. -/
theorem matches_any_iff {branches : List Expression} :
    (any branches).Matches front inside back ↔
      ∃ branch ∈ branches, branch.Matches front inside back := by
  induction branches with
  | nil => simp [any, matches_one_iff]
  | cons first rest inductionHypothesis =>
      cases rest with
      | nil => simp [any]
      | cons second rest =>
          simp only [any, matches_either_iff, inductionHypothesis, List.exists_mem_cons_iff]

/-- A text is matched by its characters in sequence, and by no others. -/
theorem matches_literal_iff {text : List Char} :
    (literal text).Matches front inside back ↔ inside = text := by
  unfold literal
  induction text generalizing front inside with
  | nil => exact matches_nothing_iff
  | cons c rest inductionHypothesis =>
      rw [List.map_cons, all, matches_sequence_iff]
      simp only [inductionHypothesis, matches_one_iff]
      constructor
      · rintro ⟨early, late, rfl, ⟨own, rfl, member, among, holds⟩, rfl⟩
        rw [List.mem_singleton.mp among] at holds
        rw [eq_of_beq holds]
        rfl
      · rintro rfl
        exact ⟨[c], rest, rfl, ⟨c, rfl, .char c, List.mem_singleton_self _, beq_self_eq_true c⟩, rfl⟩

/-- A repeated class matches the texts of its characters that are not empty. -/
theorem matches_repeated_one_iff :
    (repeated (one members)).Matches front inside back ↔
      inside ≠ [] ∧ ∀ c ∈ inside, ∃ member ∈ members, member.holds c = true := by
  constructor
  · intro matched
    generalize same : repeated (one members) = expression at matched
    induction matched with
    | once matched =>
        cases same
        obtain ⟨c, rfl, held⟩ := matches_one_iff.mp matched
        exact ⟨List.cons_ne_nil c [], by simpa using held⟩
    | again begins ends _ inductionHypothesis =>
        cases same
        obtain ⟨c, rfl, held⟩ := matches_one_iff.mp begins
        exact ⟨List.cons_ne_nil c _, List.forall_mem_cons.mpr ⟨held, (inductionHypothesis rfl).2⟩⟩
    | _ => cases same
  · rintro ⟨filled, each⟩
    induction inside generalizing front with
    | nil => exact absurd rfl filled
    | cons c rest inductionHypothesis =>
        obtain ⟨held, behind⟩ := List.forall_mem_cons.mp each
        have matched (after : List Char) : (one members).Matches front [c] after :=
          matches_one_iff.mpr ⟨c, rfl, held⟩
        by_cases last : rest = []
        · subst last
          exact .once (matched back)
        · exact .again (matched (rest ++ back)) (inductionHypothesis last behind)

theorem matches_all_append_iff {parts others : List Expression} :
    (all (parts ++ others)).Matches front inside back ↔
      ∃ early late, inside = early ++ late ∧ (all parts).Matches front early (late ++ back) ∧
        (all others).Matches (front ++ early) late back := by
  induction parts generalizing front inside with
  | nil =>
      simp only [List.nil_append, all, matches_nothing_iff]
      constructor
      · exact fun matched => ⟨[], inside, rfl, rfl, (List.append_nil front).symm ▸ matched⟩
      · rintro ⟨_, late, rfl, rfl, matched⟩
        rwa [List.append_nil] at matched
  | cons part rest inductionHypothesis =>
      rw [List.cons_append, all, all, matches_sequence_iff]
      simp only [inductionHypothesis, matches_sequence_iff]
      constructor
      · rintro ⟨early, _, rfl, begins, middle, late, rfl, further, ends⟩
        refine ⟨early ++ middle, late, (List.append_assoc ..).symm,
          ⟨early, middle, rfl, ?_, further⟩, ?_⟩
        · rwa [List.append_assoc] at begins
        · rwa [List.append_assoc] at ends
      · rintro ⟨_, late, rfl, ⟨early, middle, rfl, begins, further⟩, ends⟩
        refine ⟨early, middle ++ late, List.append_assoc .., ?_, middle, late, rfl, further, ?_⟩
        · rwa [List.append_assoc]
        · rwa [List.append_assoc]

/-- **Between both anchors a text is matched as a whole.** -/
theorem found_anchored_iff {parts : List Expression} {text : List Char} :
    (all (start :: (parts ++ [stop]))).Found text ↔ (all parts).Matches [] text [] := by
  unfold Found
  simp only [all, matches_sequence_iff, matches_all_append_iff, matches_start_iff, matches_stop_iff,
    matches_nothing_iff]
  constructor
  · rintro ⟨front, inside, back, rfl, begun, rest, rfl, ⟨rfl, rfl⟩, early, late, rfl, matched, ended,
      none, rfl, ⟨rfl, closed⟩, rfl⟩
    simp only [List.nil_append, List.append_nil] at closed matched ⊢
    subst closed
    simpa using matched
  · intro matched
    exact ⟨[], text, [], by simp, [], text, rfl, ⟨rfl, rfl⟩, text, [], by simp, by simpa using matched,
      [], [], rfl, ⟨rfl, rfl⟩, rfl⟩

end

/-! ## What is read -/

/-- A text that stands for some parts in sequence, whatever has been read before. -/
def Reads (text : List Char) (parts : List Expression) : Prop :=
  ∀ (group : Group) (outer : List Group), text.foldlM Reader.step ⟨.plain, group, outer⟩ =
    some ⟨.plain, ⟨group.branches, parts.reverse ++ group.parts⟩, outer⟩

section

variable {text other : List Char} {parts others : List Expression} {part : Expression}

theorem Reads.nil : Reads [] [] :=
  fun _ _ => rfl

theorem Reads.append (early : Reads text parts) (late : Reads other others) :
    Reads (text ++ other) (parts ++ others) := by
  intro group outer
  rw [List.foldlM_append, early group outer]
  refine (late _ outer).trans ?_
  rw [List.reverse_append, List.append_assoc]

theorem stepPlain_of_plain {c : Char} (plain : isMeta c = false) (reader : Reader) :
    reader.stepPlain c = some (reader.push (one [.char c])) := by
  unfold Reader.stepPlain
  split
  case h_10 => rw [plain, if_neg Bool.false_ne_true]
  all_goals exact absurd plain (by decide)

/-- A character that means nothing else stands for itself. -/
theorem reads_char {c : Char} (plain : isMeta c = false) : Reads [c] [one [.char c]] := by
  intro group outer
  rw [List.foldlM_cons]
  show (Reader.stepPlain ⟨.plain, group, outer⟩ c >>= _) = _
  rw [stepPlain_of_plain plain]
  rfl

theorem reads_escaped {c : Char} (marked : isMeta c = true) : Reads ['\\', c] [one [.char c]] := by
  intro group outer
  have meant : escaped? c = some (.char c) := by
    have other : c ≠ 'w' ∧ c ≠ 'd' := by
      constructor
      · rintro rfl
        cases marked
      · rintro rfl
        cases marked
    rw [escaped?, if_neg other.1, if_neg other.2, if_pos marked]
  show (Option.map _ (escaped? c) >>= _) = _
  rw [meant]
  rfl

/-- **The escaped form of a text is read as its characters in sequence.** -/
theorem reads_escape (text : List Char) : Reads (escape text) (text.map fun c => one [.char c]) := by
  induction text with
  | nil => exact .nil
  | cons c rest inductionHypothesis =>
      have first : Reads (if isMeta c then ['\\', c] else [c]) [one [.char c]] := by
        cases marked : isMeta c with
        | true => exact reads_escaped marked
        | false => exact reads_char marked
      exact first.append inductionHypothesis

theorem Reads.optional (read : Reads text [part]) : Reads (text ++ ['?']) [.optional part] := by
  intro group outer
  rw [List.foldlM_append, read group outer]
  rfl

theorem Reads.repeated (read : Reads text [part]) : Reads (text ++ ['+']) [.repeated part] := by
  intro group outer
  rw [List.foldlM_append, read group outer]
  rfl

/-- Texts that are separated by bars become the alternatives of the group they stand in. -/
theorem foldlM_intercalate {texts : List (List Char)} {branches : List (List Expression)}
    (read : List.Forall₂ Reads texts branches) (filled : texts ≠ []) (done : List Expression)
    (outer : List Group) :
    ∃ group, (['|'].intercalate texts).foldlM Reader.step ⟨.plain, ⟨done, []⟩, outer⟩ =
        some ⟨.plain, group, outer⟩ ∧
      group.branch.branches = (branches.map all).reverse ++ done := by
  -- Each bar closes an alternative, which is added to those that are complete.
  induction read generalizing done with
  | nil => exact absurd rfl filled
  | @cons text parts texts branches first rest inductionHypothesis =>
      cases rest with
      | nil =>
          refine ⟨_, (congrArg _ (List.intercalate_singleton ..)).trans (first _ outer), ?_⟩
          simp [Group.branch]
      | @cons next _ _ _ second rest =>
          obtain ⟨group, ran, closed⟩ :=
            inductionHypothesis (List.cons_ne_nil _ _) (all parts :: done)
          refine ⟨group, ?_, ?_⟩
          · rw [List.intercalate_cons_cons, List.append_assoc, List.foldlM_append, first, ← ran,
              List.append_nil]
            simp [Reader.step, Reader.stepPlain, Group.branch]
          · rw [closed]
            simp

/-- **A group is read as its alternatives.** -/
theorem Reads.grouped {texts : List (List Char)} {branches : List (List Expression)}
    (read : List.Forall₂ Reads texts branches) (filled : texts ≠ []) :
    Reads (grouped texts) [any (branches.map all)] := by
  intro group outer
  obtain ⟨inner, ran, closed⟩ := foldlM_intercalate read filled [] (group :: outer)
  have read : (['|'].intercalate texts ++ [')']).foldlM Reader.step
      ⟨.plain, .empty, group :: outer⟩ = some ⟨.plain, group.push inner.close, outer⟩ := by
    rw [List.foldlM_append, Group.empty, ran]
    rfl
  have shut : inner.close = any (branches.map all) := by
    rw [Group.close, closed, List.append_nil, List.reverse_reverse]
  rw [← shut]
  exact read

theorem read?_of_reads (read : Reads text parts) : read? text = some (all parts) := by
  unfold read?
  rw [read]
  simp [Reader.finish?, Group.close, Group.branch, Group.empty, any]

-- Bars bind less than what stands in sequence, and `?` goes with the whole group.
example : read? "(ab|[\\w-]+)?\\.".toList = some (all
    [optional (either (literal ['a', 'b']) (all [repeated (one [.word, .char '-'])])),
      one [.char '.']]) := by
  decide

end

end Expression

end HttpService.Text
