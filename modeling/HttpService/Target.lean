import HttpService.Query

/-!
Contract: request targets.

Owns:
- reading a target into decoded path segments and query parameters;
- the path that routing sees, which a rewrite may replace;
- the written paths.

Does not own: rewrite rules and routes.
-/

namespace HttpService

/-- A request target. `edgePath` is the path as it arrived, `rewrittenPath` the
one that a rewrite put in its place. -/
structure Target where
  edgePath : List String
  rewrittenPath : Option (List String)
  rawPath : String
  /-- The target was `*`: the server as a whole. -/
  isAsterisk : Bool
  /-- What the dynamic segments of the route captured. -/
  pathParams : List (String × String)
  query : Query
deriving DecidableEq, Repr

namespace Target

open Text

/-- The target `*`. -/
def asterisk : Target :=
  ⟨[], none, "*", true, [], .empty⟩

instance : Inhabited Target := ⟨asterisk⟩

/-- Decodes one segment; `+` stays as it is. -/
def decodeSegment (raw : List Char) : Except RequestError String :=
  let text := String.ofList raw
  let bytes := Utf8.encode text
  if Percent.isWellFormed bytes then
    match Utf8.decode? (Percent.decode bytes) with
    | some segment => .ok segment
    | none => .error (.invalidTarget text)
  else .error (.invalidTarget text)

/-- Decodes segments; the first one that fails is reported. -/
def decodeSegments : List (List Char) → Except RequestError (List String)
  | [] => .ok []
  | raw :: rest =>
      match decodeSegment raw with
      | .error error => .error error
      | .ok segment =>
          match decodeSegments rest with
          | .error error => .error error
          | .ok segments => .ok (segment :: segments)

/-- The raw segments of a path: an empty one in front is left out. -/
def rawSegments (path : List Char) : List (List Char) :=
  match path.splitOn '/' with
  | [] :: rest => rest
  | segments => segments

/-- Empty segments alone name the root; otherwise one empty segment at the end is
left out. -/
def normalize (segments : List String) : List String :=
  if segments.all (·.isEmpty) then []
  else if segments.getLast? = some "" then segments.dropLast
  else segments

/-- Control characters have no place in a target. -/
def isControl (c : Char) : Bool :=
  c.toNat < 0x20 || c.toNat = 0x7F

/-- A path with a slash in front. -/
def withSlash (path : List Char) : String :=
  match path with
  | '/' :: _ => String.ofList path
  | _ => String.ofList ('/' :: path)

/-- The query of a target, read after its path. -/
def readQuery (raw : Option (List Char)) : Except RequestError Query :=
  match raw with
  | none => .ok .empty
  | some raw => Query.empty.extend (String.ofList raw)

/-- Reads a target. What follows `#` carries no meaning and is dropped. -/
def parse (raw : String) : Except RequestError Target :=
  if raw = "*" then .ok asterisk
  else
    let chars := before '#' raw.toList
    if chars.any isControl then .error (.invalidTarget "control character in target")
    else
      let (path, rawQuery) := match cut? '?' chars with
        | some (path, query) => (path, some query)
        | none => (chars, none)
      match decodeSegments (rawSegments path) with
      | .error error => .error error
      | .ok segments =>
          match readQuery rawQuery with
          | .error error => .error error
          | .ok query => .ok ⟨normalize segments, none, withSlash path, false, [], query⟩

/-- The segments that routing sees. -/
def path (target : Target) : List String :=
  target.rewrittenPath.getD target.edgePath

def isRewritten (target : Target) : Bool :=
  target.rewrittenPath.isSome

/-- Segments as a path with a slash in front of each. -/
def joinPath (segments : List String) : String :=
  "/" ++ "/".intercalate segments

/-- The routing path as text. -/
def pathText (target : Target) : String :=
  if target.isAsterisk then "*" else joinPath target.path

/-- The path as it arrived, as text. -/
def edgePathText (target : Target) : String :=
  if target.isAsterisk then "*" else joinPath target.edgePath

def param? (target : Target) (name : String) : Option String :=
  target.pathParams.lookup name

end Target

end HttpService
