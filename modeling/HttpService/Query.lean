import HttpService.Headers
import HttpService.RequestError
import HttpService.Text.Percent
import HttpService.Text.Split

/-!
Contract: query parameters as a multimap.

Owns:
- adding parameters one by one or from a raw query;
- the form decoding of a raw query: pieces between `&`, the first `=`, `+` for a
  space, percent escapes;
- the lookups.

Does not own: the target that a query is part of.
-/

namespace HttpService

/-- Query parameters: each key with its values in order of arrival. -/
structure Query where
  entries : List (String × Array String)
deriving DecidableEq, Repr

namespace Query

open Text

def empty : Query := ⟨[]⟩

instance : EmptyCollection Query := ⟨empty⟩
instance : Inhabited Query := ⟨empty⟩

/-- Adds a value to the entry of its key, or a last entry. -/
def addValue (key value : String) :
    List (String × Array String) → List (String × Array String)
  | [] => [(key, #[value])]
  | (other, values) :: rest =>
      if other = key then (other, values.push value) :: rest
      else (other, values) :: addValue key value rest

def insert (query : Query) (key value : String) : Query :=
  ⟨addValue key value query.entries⟩

/-- All values of a key, in order of arrival. -/
def all? (query : Query) (key : String) : Option (List String) :=
  (query.entries.lookup key).map Array.toList

def first? (query : Query) (key : String) : Option String :=
  (query.all? key).bind (·.head?)

def last? (query : Query) (key : String) : Option String :=
  (query.all? key).bind (·.getLast?)

/-- The value of a key that may be given at most once. -/
def single (query : Query) (key : String) : Except RequestError (Option String) :=
  match query.all? key with
  | none => .ok none
  | some [value] => .ok (some value)
  | some _ =>
      .error (.invalidQuery ("query parameter " ++ key ++ " should only be present once"))

def contains (query : Query) (key : String) : Bool :=
  (query.all? key).isSome

def size (query : Query) : Nat :=
  query.entries.length

def isEmpty (query : Query) : Bool :=
  query.entries.isEmpty

/-- Reads one key or value of a form: `+` is a space, then escapes are decoded. -/
def decodeComponent (bytes : Bytes) : String :=
  Utf8.decodeLossy (Percent.decode (bytes.map fun byte => if byte = 0x2B then 0x20 else byte))

/-- One piece of a form: without `=` its value is empty. -/
def decodePiece (piece : Bytes) : String × String :=
  match cut? 0x3D piece with
  | some (key, value) => (decodeComponent key, decodeComponent value)
  | none => (decodeComponent piece, "")

/-- The parameters of a form in order; empty pieces do not count. -/
def decodeForm (bytes : Bytes) : List (String × String) :=
  ((bytes.splitOn 0x26).filter (· ≠ [])).map decodePiece

/-- Whether a raw query can be read: no further `?`, and only well-formed escapes. -/
def isReadable (raw : String) : Bool :=
  !raw.toList.contains '?' && Percent.isWellFormed (Utf8.encode raw)

/-- Adds the parameters of a raw query, or none of them. -/
def extend (query : Query) (raw : String) : Except RequestError Query :=
  if isReadable raw then
    .ok ((decodeForm (Utf8.encode raw)).foldl (fun held (key, value) => held.insert key value) query)
  else .error (.invalidQuery raw)

end Query

end HttpService
