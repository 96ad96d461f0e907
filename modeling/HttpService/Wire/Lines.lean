import HttpService.Text.Utf8

/-!
Contract: octets as lines that end in CR LF.

Owns:
- the number of CR LF pairs, and where the next one is;
- reading lines one after the other from a place in an input.

Does not own: what a line means.
-/

namespace HttpService.Wire

def cr : UInt8 := 13

def lf : UInt8 := 10

/-- How many CR LF pairs there are. -/
def crlfCount : Bytes → Nat
  | [] => 0
  | [_] => 0
  | first :: second :: rest =>
      if first = cr ∧ second = lf then crlfCount rest + 1 else crlfCount (second :: rest)

/-- The index of the first CR LF pair from an index on. -/
def crlfFrom? (input : Array UInt8) (index : Nat) : Option Nat :=
  if inside : index + 1 < input.size then
    if input[index] = cr ∧ input[index + 1] = lf then some index
    else crlfFrom? input (index + 1)
  else none
termination_by input.size - index

theorem le_of_crlfFrom? {input : Array UInt8} {index found : Nat}
    (pair : crlfFrom? input index = some found) : index ≤ found ∧ found + 1 < input.size := by
  fun_induction crlfFrom? input index with
  | case1 index inside ends =>
      cases pair
      exact ⟨Nat.le_refl _, inside⟩
  | case2 index inside ends inductionHypothesis =>
      have further := inductionHypothesis pair
      exact ⟨by omega, further.2⟩
  | case3 => cases pair

/-- A place in an input that is read line by line. Behind the last line it is one past the end
of the input. -/
structure LineCursor where
  input : Array UInt8
  position : Nat
deriving DecidableEq, Repr

namespace LineCursor

/-- The beginning of an input. -/
def start (input : Bytes) : LineCursor :=
  ⟨input.toArray, 0⟩

/-- The index of the first octet that has not been read. -/
def offset (cursor : LineCursor) : Nat :=
  min cursor.position cursor.input.size

/-- The octets from the position up to an index. -/
def upTo (cursor : LineCursor) (index : Nat) : Bytes :=
  (cursor.input.extract cursor.position index).toList

def moveTo (cursor : LineCursor) (position : Nat) : LineCursor :=
  { cursor with position }

/-- Reads a line if one is left: up to the next CR LF, which is stepped over, or up to the end. -/
def next (cursor : LineCursor) : Option Bytes × LineCursor :=
  if cursor.input.size < cursor.position then (none, cursor)
  else
    match crlfFrom? cursor.input cursor.position with
    | some index => (some (cursor.upTo index), cursor.moveTo (index + 2))
    | none => (some (cursor.upTo cursor.input.size), cursor.moveTo (cursor.input.size + 1))

/-- How far it is to the place behind the last line. -/
def left (cursor : LineCursor) : Nat :=
  cursor.input.size + 1 - cursor.position

/-- Reading a line leaves less. -/
theorem left_next {cursor behind : LineCursor} {line : Bytes}
    (read : cursor.next = (some line, behind)) : behind.left < cursor.left := by
  unfold next at read
  split at read
  · cases read
  · split at read
    · rename_i index pair
      cases read
      have bounds := le_of_crlfFrom? pair
      simp only [left, moveTo]
      omega
    · cases read
      simp only [left, moveTo]
      omega

end LineCursor

end HttpService.Wire
