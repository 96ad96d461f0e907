import Mathlib.Data.List.Infix
import HttpService.Wire.Lines

/-!
Contract: how octets fall into lines.

Owns:
- the first line of some octets and what is left after it, and all lines;
- octets without CR LF, which are one line;
- every input as such a line, or as such a line with CR LF and more behind it;
- what the first line and the count of CR LF pairs are in either case.

Does not own: places in an input, header lines, and the end of a head.
-/

namespace HttpService.Wire

/-! ## First lines -/

/-- Reads on to the end of a line; `read` holds its octets so far, last first. -/
def nextLineFrom (read : Bytes) : Bytes → Bytes × Option Bytes
  | [] => (read.reverse, none)
  | [byte] => ((byte :: read).reverse, none)
  | first :: second :: rest =>
      if first = cr ∧ second = lf then (read.reverse, some rest)
      else nextLineFrom (first :: read) (second :: rest)

/-- The first line, and what follows its CR LF if one ends it. -/
def nextLine (bytes : Bytes) : Bytes × Option Bytes :=
  nextLineFrom [] bytes

theorem nextLineFrom_length {read bytes line rest : Bytes}
    (found : nextLineFrom read bytes = (line, some rest)) :
    rest.length + 2 ≤ bytes.length := by
  fun_induction nextLineFrom read bytes with
  | case1 => simp at found
  | case2 => simp at found
  | case3 read first second tail ends =>
      simp only [Prod.mk.injEq, Option.some.injEq] at found
      simp [← found.2]
  | case4 read first second tail ends inductionHypothesis =>
      have := inductionHypothesis found
      simp only [List.length_cons] at this ⊢
      omega

/-- What follows a line is shorter than what it was read from. -/
theorem nextLine_length {bytes line rest : Bytes}
    (found : nextLine bytes = (line, some rest)) : rest.length + 2 ≤ bytes.length :=
  nextLineFrom_length found

/-- What is left to read: nothing at all after a line that no CR LF ended. -/
abbrev Remaining := Option Bytes

/-- The number of octets left to read. -/
def Remaining.size (remaining : Remaining) : Nat :=
  match remaining with
  | none => 0
  | some bytes => bytes.length + 1

/-- Reading a line leaves less. -/
theorem nextLine_size (bytes : Bytes) :
    Remaining.size (nextLine bytes).2 < Remaining.size (some bytes) := by
  rcases found : nextLine bytes with ⟨line, rest⟩
  cases rest with
  | none => simp [Remaining.size]
  | some rest =>
      have := nextLine_length found
      simp only [Remaining.size]
      omega

def linesOf (remaining : Remaining) : List Bytes :=
  match remaining with
  | none => []
  | some bytes => (nextLine bytes).1 :: linesOf (nextLine bytes).2
termination_by Remaining.size remaining
decreasing_by exact nextLine_size bytes

/-! ## Unbroken octets -/

/-- The octets that end a line. -/
def crlf : Bytes := [cr, lf]

/-- Octets without a CR LF pair. -/
def Unbroken (bytes : Bytes) : Prop :=
  ¬ crlf <:+: bytes

theorem unbroken_nil : Unbroken [] := by
  intro inside
  have bound := inside.length_le
  simp [crlf] at bound

theorem Unbroken.tail {byte : UInt8} {rest : Bytes} (unbroken : Unbroken (byte :: rest)) :
    Unbroken rest :=
  fun inside => unbroken (List.infix_cons inside)

theorem Unbroken.not_pair {first second : UInt8} {rest : Bytes}
    (unbroken : Unbroken (first :: second :: rest)) : ¬ (first = cr ∧ second = lf) := by
  rintro ⟨rfl, rfl⟩
  exact unbroken ⟨[], rest, rfl⟩

theorem unbroken_cons {first : UInt8} {rest : Bytes} (unbroken : Unbroken rest)
    (apart : ¬ (first = cr ∧ rest.head? = some lf)) : Unbroken (first :: rest) := by
  intro inside
  rcases List.infix_cons_iff.mp inside with front | deeper
  · obtain ⟨back, equal⟩ := front
    apply apart
    cases equal
    exact ⟨rfl, rfl⟩
  · exact unbroken deeper

theorem unbroken_of_not_mem {bytes : Bytes} (absent : cr ∉ bytes) : Unbroken bytes :=
  fun inside => absent (inside.subset (by simp [crlf]))

/-- Unbroken octets in front of CR LF can only end there. -/
theorem not_pair_of_unbroken {first : UInt8} {line : Bytes} (rest : Bytes)
    (unbroken : Unbroken (first :: line)) :
    ∀ second tail, line ++ crlf ++ rest = second :: tail → ¬ (first = cr ∧ second = lf) := by
  intro second tail shape
  cases line with
  | nil =>
      cases shape
      rintro ⟨_, equal⟩
      exact absurd equal (by decide)
  | cons next line =>
      cases shape
      exact unbroken.not_pair

/-- **Every input is one line, or a line with more behind it.** -/
theorem unbroken_or_line : ∀ bytes : Bytes, Unbroken bytes ∨
    ∃ line rest, bytes = line ++ crlf ++ rest ∧ Unbroken line
  | [] => Or.inl unbroken_nil
  | byte :: tail => by
      by_cases ends : byte = cr ∧ tail.head? = some lf
      · obtain ⟨rfl, second⟩ := ends
        cases tail with
        | nil => cases second
        | cons next rest =>
            cases second
            exact Or.inr ⟨[], rest, rfl, unbroken_nil⟩
      · rcases unbroken_or_line tail with unbroken | ⟨line, rest, rfl, unbroken⟩
        · exact Or.inl (unbroken_cons unbroken ends)
        · refine Or.inr ⟨byte :: line, rest, rfl, unbroken_cons unbroken ?_⟩
          rintro ⟨isCr, second⟩
          apply ends
          refine ⟨isCr, ?_⟩
          cases line with
          | nil => cases second
          | cons next line => exact second

/-- Induction line by line: what holds of a last line, and of a line in front of an input
of which it holds, holds of every input. -/
@[elab_as_elim]
theorem line_induction {motive : Bytes → Prop}
    (last : ∀ bytes, Unbroken bytes → motive bytes)
    (line : ∀ line rest, Unbroken line → motive rest → motive (line ++ crlf ++ rest))
    (bytes : Bytes) : motive bytes := by
  rcases unbroken_or_line bytes with unbroken | ⟨front, rest, shape, unbroken⟩
  · exact last bytes unbroken
  · have shorter : rest.length < bytes.length := by
      rw [shape, List.length_append, List.length_append]
      simp only [crlf, List.length_cons, List.length_nil]
      omega
    rw [shape]
    exact line front rest unbroken (line_induction last line rest)
termination_by bytes.length

/-! ## The first line of an input -/

theorem nextLineFrom_line (rest : Bytes) : ∀ (line read : Bytes), Unbroken line →
    nextLineFrom read (line ++ crlf ++ rest) = (read.reverse ++ line, some rest)
  | [], read, _ => by
      show nextLineFrom read (cr :: lf :: rest) = _
      rw [nextLineFrom, if_pos ⟨rfl, rfl⟩, List.append_nil]
  | byte :: line, read, unbroken => by
      have apart := not_pair_of_unbroken rest unbroken
      have further := nextLineFrom_line rest line (byte :: read) unbroken.tail
      show nextLineFrom read (byte :: (line ++ crlf ++ rest)) = _
      cases shape : line ++ crlf ++ rest with
      | nil => simp [crlf] at shape
      | cons second tail =>
          rw [nextLineFrom, if_neg (apart second tail shape), ← shape, further,
            List.reverse_cons, List.append_assoc, List.singleton_append]

theorem nextLineFrom_unbroken : ∀ (bytes read : Bytes), Unbroken bytes →
    nextLineFrom read bytes = (read.reverse ++ bytes, none)
  | [], read, _ => by rw [nextLineFrom, List.append_nil]
  | [byte], read, _ => by rw [nextLineFrom, List.reverse_cons]
  | first :: second :: rest, read, unbroken => by
      rw [nextLineFrom, if_neg unbroken.not_pair,
        nextLineFrom_unbroken (second :: rest) (first :: read) unbroken.tail,
        List.reverse_cons, List.append_assoc, List.singleton_append]

theorem nextLine_line {line : Bytes} (rest : Bytes) (unbroken : Unbroken line) :
    nextLine (line ++ crlf ++ rest) = (line, some rest) :=
  nextLineFrom_line rest line [] unbroken

theorem nextLine_unbroken {bytes : Bytes} (unbroken : Unbroken bytes) :
    nextLine bytes = (bytes, none) :=
  nextLineFrom_unbroken bytes [] unbroken

theorem linesOf_none : linesOf none = [] := by
  rw [linesOf]

theorem linesOf_line {line : Bytes} (rest : Bytes) (unbroken : Unbroken line) :
    linesOf (some (line ++ crlf ++ rest)) = line :: linesOf (some rest) := by
  rw [linesOf, nextLine_line rest unbroken]

theorem linesOf_unbroken {bytes : Bytes} (unbroken : Unbroken bytes) :
    linesOf (some bytes) = [bytes] := by
  rw [linesOf, nextLine_unbroken unbroken, linesOf_none]

/-! ## Counting -/

/-- At how many places of some octets a CR LF pair begins. -/
def pairPlaces (bytes : Bytes) : Nat :=
  bytes.tails.countP crlf.isPrefixOf

theorem pairPlaces_cons (first : UInt8) (rest : Bytes) :
    pairPlaces (first :: rest) =
      pairPlaces rest + if crlf.isPrefixOf (first :: rest) then 1 else 0 := by
  unfold pairPlaces
  rw [List.tails_cons, List.countP_cons]

/-- Pairs do not overlap, so counting may go on behind each of them. -/
theorem crlfCount_eq_pairPlaces (bytes : Bytes) : crlfCount bytes = pairPlaces bytes := by
  fun_induction crlfCount bytes with
  | case1 => rfl
  | case2 byte => simp [pairPlaces, crlf]
  | case3 first second rest ends inductionHypothesis =>
      obtain ⟨rfl, rfl⟩ := ends
      have apart : crlf.isPrefixOf (lf :: rest) = false := rfl
      have here : crlf.isPrefixOf (cr :: lf :: rest) = true := rfl
      rw [inductionHypothesis, pairPlaces_cons, pairPlaces_cons, apart, here]
      rfl
  | case4 first second rest apart inductionHypothesis =>
      have missing : crlf.isPrefixOf (first :: second :: rest) = false := by
        rw [Bool.eq_false_iff]
        intro ahead
        obtain ⟨tail, shape⟩ := List.isPrefixOf_iff_prefix.mp ahead
        cases shape
        exact apart ⟨rfl, rfl⟩
      rw [inductionHypothesis, pairPlaces_cons first, missing]
      rfl

theorem crlfCount_line (rest : Bytes) : ∀ {line : Bytes}, Unbroken line →
    crlfCount (line ++ crlf ++ rest) = crlfCount rest + 1
  | [], _ => by
      show crlfCount (cr :: lf :: rest) = _
      rw [crlfCount, if_pos ⟨rfl, rfl⟩]
  | byte :: line, unbroken => by
      have apart := not_pair_of_unbroken rest unbroken
      have further := crlfCount_line rest unbroken.tail
      show crlfCount (byte :: (line ++ crlf ++ rest)) = _
      cases shape : line ++ crlf ++ rest with
      | nil => simp [crlf] at shape
      | cons second tail => rw [crlfCount, if_neg (apart second tail shape), ← shape, further]

theorem one_le_crlfCount (front rest : Bytes) : 1 ≤ crlfCount (front ++ crlf ++ rest) := by
  induction front using line_induction with
  | last bytes unbroken =>
      rw [crlfCount_line rest unbroken]
      omega
  | line line back unbroken inductionHypothesis =>
      rw [List.append_assoc (line ++ crlf), List.append_assoc (line ++ crlf),
        crlfCount_line _ unbroken]
      omega

theorem crlfCount_unbroken : ∀ {bytes : Bytes}, Unbroken bytes → crlfCount bytes = 0
  | [], _ => rfl
  | [_], _ => rfl
  | first :: second :: rest, unbroken => by
      rw [crlfCount, if_neg unbroken.not_pair, crlfCount_unbroken unbroken.tail]

end HttpService.Wire
