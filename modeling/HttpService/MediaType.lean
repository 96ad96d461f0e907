import HttpService.Headers
import HttpService.Text.Blank
import HttpService.Text.Split

/-!
Contract: media types such as `application/json; charset=utf-8`, and the lists
of them that a client accepts.

Owns:
- reading and writing a media type;
- when one media type answers for another;
- the types that the values of an `Accept` field ask for.

Does not own: where the fields are looked up.
-/

namespace HttpService

/-- A media type. Only the `charset` parameter is kept. -/
structure MediaType where
  kind : String
  subtype : String
  charset : Option String
deriving DecidableEq, Repr

namespace MediaType

open Text

def plain (kind subtype : String) : MediaType :=
  ⟨kind, subtype, none⟩

def any : MediaType := plain "*" "*"

def json : MediaType := plain "application" "json"

def textPlain : MediaType := plain "text" "plain"

/-- Sets the charset, in lower case. -/
def withCharset (type : MediaType) (charset : String) : MediaType :=
  { type with charset := some (foldCase charset) }

/-- The value of a parameter `key=value`, if the key is this one. -/
def parameter? (key param : List Char) : Option (List Char) :=
  match cut? '=' (trim param) with
  | some (found, value) => if found = key then some value else none
  | none => none

/-- Takes over the charset of a parameter; the last one counts. -/
def absorb (type : MediaType) (param : List Char) : MediaType :=
  match parameter? "charset".toList param with
  | some value => type.withCharset (String.ofList (trimWhile (· == '"') value))
  | none => type

/-- Reads `kind/subtype` and its parameters. -/
def parse? (raw : String) : Option MediaType :=
  match raw.toList.splitOn ';' with
  | [] => none
  | essence :: params =>
      match cut? '/' (trim essence) with
      | none => none
      | some (kind, subtype) =>
          if kind = [] ∨ subtype = [] then none
          else
            some (params.foldl absorb
              (plain (foldCase (String.ofList kind)) (foldCase (String.ofList subtype))))

/-- The written form. -/
def render (type : MediaType) : String :=
  type.kind ++ "/" ++ type.subtype ++
    match type.charset with
    | some charset => "; charset=" ++ charset
    | none => ""

/-- An absent charset stands for UTF-8. -/
def isUtf8 (charset : Option String) : Bool :=
  match charset with
  | none => true
  | some name => name == "utf-8"

/-- Whether `type` answers for `other`: a star stands for any kind or subtype,
and the charsets are the same or both UTF-8. -/
def covers (type other : MediaType) : Bool :=
  (type.kind == "*" || type.kind == other.kind) &&
    (type.subtype == "*" || type.subtype == other.subtype) &&
      ((isUtf8 type.charset && isUtf8 other.charset) || type.charset == other.charset)

/-- An item of an `Accept` field with a quality of zero refuses its type. -/
def isRefused (item : List Char) : Bool :=
  (item.splitOn ';').tail.any fun param =>
    match parameter? ['q'] param with
    | some quality => isAtMostZero (trim quality)
    | none => false

/-- The media types asked for by the values of the `Accept` field; everything if
there is no such field. -/
def accepted (values : Option (List String)) : List MediaType :=
  match values with
  | none => [any]
  | some values =>
      let items := values.flatMap fun value => value.toList.splitOn ','
      (items.filter fun item => !isRefused item).filterMap fun item =>
        parse? (String.ofList (trim item))

end MediaType

end HttpService
