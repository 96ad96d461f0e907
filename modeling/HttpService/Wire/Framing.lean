import HttpService.Headers
import HttpService.Text.Blank
import HttpService.Text.Split
import HttpService.Wire.Lines
import HttpService.Wire.RequestReader

/-!
Contract: where in a stream of octets a request ends.

Owns:
- the end of the head, and the body length that the head announces;
- when enough octets have arrived, and how many are kept at most;
- sizes that are too large to be counted;
- the octets that a sequence of reads comes to.

Does not own: whether what has arrived is a request.
-/

namespace HttpService.Wire

open Text

/-- Room for the request line and the headers on top of the body. -/
def maxHeadLength : Nat := 2 * maxTargetLength

/-- Most octets that one read brings. -/
def maxChunk : Nat := 4096

/-- Sizes are counted below this number. -/
def sizeLimit : Nat := Nat.pow 2 64

/-- A size, if it can be counted. -/
def countable? (size : Nat) : Option Nat :=
  if size < sizeLimit then some size else none

/-- Most octets that are kept of one request, if there can be that many. -/
def readLimit? (maxBody : Nat) : Option Nat :=
  countable? (maxBody + maxHeadLength)

/-- The index of the first empty line's CR LF CR LF, counted from `index`. -/
def headEndFrom (index : Nat) : Bytes → Option Nat
  | [] => none
  | byte :: rest =>
      if byte = cr ∧ [lf, cr, lf].isPrefixOf rest then some index
      else headEndFrom (index + 1) rest

/-- The length of the head in front of the first CR LF CR LF. -/
def headEnd? (buffer : Bytes) : Option Nat :=
  headEndFrom 0 buffer

/-- Name and value of a line of the head, if it is text with a colon. -/
def headField? (line : Bytes) : Option (List Char × List Char) :=
  (Utf8.decode? line).bind fun text =>
    cut? ':' (trimEndWhile (· == '\r') text.toList)

/-- Whether a name is that of the body length, in any casing. -/
def isLengthName (name : List Char) : Bool :=
  name.map Char.toLower == "content-length".toList

/-- The body length that a head announces: that of the first line that names it, zero
if there is none or it cannot be read. -/
def announcedLength (head : Bytes) : Nat :=
  match ((head.splitOn lf).filterMap headField?).find? fun field => isLengthName field.1 with
  | some (_, value) => (readSize? (trim value)).getD 0
  | none => 0

/-- Whether a request has arrived: its head and the announced body. A body that is too
large is not waited for. None if the whole request is too large to be counted. -/
def isComplete? (buffer : Bytes) (maxBody : Nat) : Option Bool :=
  match headEnd? buffer with
  | none => some false
  | some length =>
      let announced := announcedLength (buffer.take length)
      if maxBody < announced then some true
      else (countable? (length + 4 + announced)).map fun size => decide (size ≤ buffer.length)

/-- What the octets so far come to. -/
inductive Intake where
  /-- More octets are needed. -/
  | more (held : Bytes)
  /-- Reading ends here. -/
  | enough (held : Bytes)
  /-- The request is too large to be counted. -/
  | uncountable
deriving DecidableEq, Repr

/-- Adds what a read has brought. Reading ends at the limit, or when a request has
arrived. -/
def absorb (limit maxBody : Nat) (buffer chunk : Bytes) : Intake :=
  let held := buffer ++ chunk
  if limit ≤ held.length then .enough (held.take limit)
  else
    match isComplete? held maxBody with
    | none => .uncountable
    | some true => .enough held
    | some false => .more held

/-- What a sequence of reads comes to, the end of the stream standing behind the last;
none if the request is too large to be counted. -/
def collect (limit maxBody : Nat) (buffer : Bytes) : List Bytes → Option Bytes
  | [] => some buffer
  | chunk :: rest =>
      match absorb limit maxBody buffer chunk with
      | .more held => collect limit maxBody held rest
      | .enough held => some held
      | .uncountable => none

end HttpService.Wire
