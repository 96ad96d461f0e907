import HttpService.Text.Blank
import HttpService.Text.Quoted
import HttpService.Text.Split
import HttpService.Text.Word

/-!
Contract: path patterns with literal and dynamic segments.

Owns:
- the two dialects: `:name|opening|closing` for routes and
  `${name|opening|closing}` for rewrite sources;
- compiling a pattern, and placing it under another one;
- the displayed form, in the dialect of routes.

Does not own: which paths a pattern matches, and which pattern wins.
-/

namespace HttpService.Routing

open Text

/-- One segment of a pattern. A dynamic segment captures a whole path segment
that starts with `opening` and ends with `closing`. -/
inductive Segment where
  | literal (text : String)
  | dynamic (name opening closing : String)
deriving DecidableEq, Repr

def Segment.isDynamic : Segment → Bool
  | literal _ => false
  | dynamic .. => true

/-- The name under which a segment captures. -/
def Segment.capture? : Segment → Option String
  | literal _ => none
  | dynamic name _ _ => some name

/-- A compiled pattern. The root is the pattern without segments. -/
structure Pattern where
  segments : List Segment
deriving DecidableEq, Repr

inductive PatternError where
  | invalidSegment (segment pattern : String)
  | duplicateCapture (name pattern : String)
deriving DecidableEq, Repr

def PatternError.message : PatternError → String
  | invalidSegment segment pattern =>
      "invalid dynamic segment " ++ Quoted.text segment ++ " in " ++ Quoted.text pattern
  | duplicateCapture name pattern =>
      "capture name " ++ Quoted.text name ++ " appears more than once in " ++ Quoted.text pattern

inductive Dialect where
  | route
  | rewrite
deriving DecidableEq, Repr

/-- The segments of a path: one slash at either end does not count. -/
def splitPath (path : List Char) : List (List Char) :=
  match dropTrail '/' (dropLead '/' path) with
  | [] => []
  | inner => inner.splitOn '/'

/-- What stands between the marks of a dynamic segment; `none` for a literal. -/
def dynamicPart? (dialect : Dialect) (part : List Char) : Option (List Char) :=
  match dialect, part with
  | .route, ':' :: inner => some inner
  | .rewrite, '$' :: '{' :: inner =>
      if inner.getLast? = some '}' then some inner.dropLast else none
  | _, _ => none

def isNameChar (c : Char) : Bool :=
  isWord c || c == '-'

def isConstraintChar (c : Char) : Bool :=
  isWord c || c == '.' || c == '-'

/-- Whether a text is a capture name. -/
def isName (name : List Char) : Bool :=
  !name.isEmpty && name.all isNameChar

/-- Reads `name`, `name|opening` or `name|opening|closing`. -/
def readDynamic? (inner : List Char) : Option Segment :=
  let make := fun (name opening closing : List Char) =>
    if isName name && opening.all isConstraintChar && closing.all isConstraintChar then
      some (Segment.dynamic (String.ofList name) (String.ofList opening) (String.ofList closing))
    else none
  match inner.splitOn '|' with
  | [name] => make name [] []
  | [name, opening] => make name opening []
  | [name, opening, closing] => make name opening closing
  | _ => none

/-- Compiles one segment of the pattern `raw`. -/
def readSegment (dialect : Dialect) (raw : String) (part : List Char) :
    Except PatternError Segment :=
  match dynamicPart? dialect part with
  | none => .ok (.literal (String.ofList part))
  | some inner =>
      match readDynamic? inner with
      | some segment => .ok segment
      | none => .error (.invalidSegment (String.ofList part) raw)

/-- Compiles segments; the first one that fails is reported. -/
def readSegments (dialect : Dialect) (raw : String) :
    List (List Char) → Except PatternError (List Segment)
  | [] => .ok []
  | part :: rest =>
      match readSegment dialect raw part with
      | .error error => .error error
      | .ok segment =>
          match readSegments dialect raw rest with
          | .error error => .error error
          | .ok segments => .ok (segment :: segments)

/-- The first name that appears among those before it. -/
def firstRepeated? (seen : List String) : List String → Option String
  | [] => none
  | name :: rest => if name ∈ seen then some name else firstRepeated? (name :: seen) rest

namespace Pattern

def root : Pattern := ⟨[]⟩

instance : Inhabited Pattern := ⟨root⟩

/-- The names of the dynamic segments, in order. -/
def captureNames (pattern : Pattern) : List String :=
  pattern.segments.filterMap Segment.capture?

/-- Requires distinct capture names; `raw` is the pattern as it is reported. -/
def checkCaptures (pattern : Pattern) (raw : String) : Except PatternError Pattern :=
  match firstRepeated? [] pattern.captureNames with
  | some name => .error (.duplicateCapture name raw)
  | none => .ok pattern

def parse (dialect : Dialect) (raw : String) : Except PatternError Pattern :=
  match readSegments dialect raw (splitPath raw.toList) with
  | .error error => .error error
  | .ok segments => checkCaptures ⟨segments⟩ raw

def ofRoute (raw : String) : Except PatternError Pattern :=
  parse .route raw

def ofRewrite (raw : String) : Except PatternError Pattern :=
  parse .rewrite raw

/-- Whether the pattern names the root path. -/
def isRoot (pattern : Pattern) : Bool :=
  pattern.segments.isEmpty

/-- Whether the pattern has literal segments only. -/
def isStatic (pattern : Pattern) : Bool :=
  pattern.segments.all (!·.isDynamic)

end Pattern

/-- The displayed form of a segment, with a slash in front. -/
def Segment.render : Segment → String
  | literal text => "/" ++ text
  | dynamic name opening closing =>
      "/:" ++ name ++
        (if opening ≠ "" ∨ closing ≠ "" then "|" ++ opening else "") ++
          (if closing ≠ "" then "|" ++ closing else "")

def Pattern.render (pattern : Pattern) : String :=
  match pattern.segments with
  | [] => "/"
  | segments => String.join (segments.map Segment.render)

/-- The pattern placed under another one. -/
def Pattern.under (pattern base : Pattern) : Except PatternError Pattern :=
  let whole : Pattern := ⟨base.segments ++ pattern.segments⟩
  whole.checkCaptures whole.render

end HttpService.Routing
