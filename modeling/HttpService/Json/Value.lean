import HttpService.Json.Binary64

/-!
Contract: JSON values.

Owns: the type of values and the members of an object, which are kept in the
order of their keys, one member per key.

Does not own: reading and writing.
-/

namespace HttpService.Json

/-- A number: an unsigned or a negative integer of 64 bits, or a double. -/
inductive Number where
  | natural (value : Nat)
  | negative (magnitude : Nat)
  | float (value : Binary64)
deriving DecidableEq, Repr

inductive Value where
  | null
  | bool (value : Bool)
  | number (value : Number)
  | string (text : String)
  | array (items : List Value)
  | object (members : List (String × Value))
deriving Repr, Inhabited

/-- Puts a member at the place of its key; a later member replaces an earlier
one with the same key. -/
def insertMember (key : String) (value : Value) :
    List (String × Value) → List (String × Value)
  | [] => [(key, value)]
  | (other, held) :: rest =>
      if key < other then (key, value) :: (other, held) :: rest
      else if key = other then (key, value) :: rest
      else (other, held) :: insertMember key value rest

namespace Value

def ofMembers (members : List (String × Value)) : Value :=
  .object (members.foldl (fun held (key, value) => insertMember key value held) [])

/-- The member of an object, if the value is an object that has it. -/
def member? (value : Value) (key : String) : Option Value :=
  match value with
  | .object members => members.lookup key
  | _ => none

end Value

end HttpService.Json
