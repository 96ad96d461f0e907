import HttpService.Routing.Pattern

/-!
Contract: texts with references `${name}` to captured segments.

Owns: reading a text into characters and references, and filling it in.

Does not own: where the values come from, and how they are encoded.
-/

namespace HttpService.Routing

open Text

/-- A character, or a reference to a capture. -/
inductive Piece where
  | char (c : Char)
  | reference (name : List Char)
deriving DecidableEq, Repr

/-- Reads a text from the front. A reference ends at the first `}`; without one
`${` is plain text. -/
def pieces (chars : List Char) : List Piece :=
  match chars with
  | [] => []
  | '$' :: '{' :: rest =>
      match _found : cut? '}' rest with
      | some (name, after) => .reference name :: pieces after
      | none => .char '$' :: pieces ('{' :: rest)
  | c :: rest => .char c :: pieces rest
termination_by chars.length
decreasing_by
  · have := cut?_length _found
    simp only [List.length_cons]
    omega
  · simp
  · simp

/-- The written form of a reference. -/
def writeReference (name : List Char) : List Char :=
  '$' :: '{' :: (name ++ ['}'])

/-- The characters that a piece stands for; an unknown name stays as written. -/
def Piece.fill (params : List (String × String)) (encode : String → String) :
    Piece → List Char
  | char c => [c]
  | reference name =>
      match params.lookup (String.ofList name) with
      | some value => (encode value).toList
      | none => writeReference name

/-- A text with its references filled in, all at once. -/
def fillTemplate (params : List (String × String)) (encode : String → String)
    (template : String) : String :=
  String.ofList ((pieces template.toList).flatMap (Piece.fill params encode))

/-- The first reference that is not a bare capture name. -/
def firstInvalidReference? (template : String) : Option String :=
  (pieces template.toList).findSome? fun piece =>
    match piece with
    | .char _ => none
    | .reference name =>
        if isName name then none else some (String.ofList (writeReference name))

end HttpService.Routing
