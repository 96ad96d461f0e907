import HttpService.Text.Numeral

/-!
Contract: header fields as an ordered multimap whose names ignore case.

Owns:
- what a stored name or value may hold: printable ASCII and tabs;
- adding, replacing and removing values, and merging two maps;
- the lookups, and the body length that a map declares.

Does not own: the lines on the wire, or what any field means.
-/

namespace HttpService

/-- The values of one field name, in arrival order. `name` keeps the casing of
the first appearance, and `folded` is the form under which it is found. -/
structure HeaderEntry where
  name : String
  folded : String
  values : Array String
deriving DecidableEq, Repr

/-- Header fields, one entry per name, in order of first appearance. -/
structure Headers where
  entries : List HeaderEntry
deriving DecidableEq, Repr

/-- Printable ASCII and the horizontal tab may be stored. -/
def isFieldChar (c : Char) : Bool :=
  c == '\t' || (0x20 ≤ c.toNat && c.toNat ≤ 0x7E)

/-- A text without the characters that may not be stored. -/
def sanitize (raw : String) : String :=
  String.ofList (raw.toList.filter isFieldChar)

/-- The form under which names are compared. -/
def foldCase (name : String) : String :=
  String.ofList (name.toList.map Char.toLower)

/-- The outcome of asking for the single value of a field. -/
inductive Single where
  | absent
  | value (text : String)
  | repeated
deriving DecidableEq, Repr

namespace Headers

def empty : Headers := ⟨[]⟩

instance : EmptyCollection Headers := ⟨empty⟩
instance : Inhabited Headers := ⟨empty⟩

/-- The entry for a name is found by its folded case. -/
def isNamed (name : String) (entry : HeaderEntry) : Bool :=
  entry.folded == foldCase name

/-- Changes the values of the entry for `name`, or adds a last entry with `fresh`. -/
def upsert (name : String) (change : Array String → Array String) (fresh : Array String) :
    List HeaderEntry → List HeaderEntry
  | [] => [⟨name, foldCase name, fresh⟩]
  | entry :: rest =>
      if isNamed name entry then { entry with values := change entry.values } :: rest
      else entry :: upsert name change fresh rest

/-- Adds a value after those that the field has. -/
def append (headers : Headers) (name value : String) : Headers :=
  let stored := sanitize value
  ⟨upsert (sanitize name) (·.push stored) #[stored] headers.entries⟩

/-- Replaces the values of a field by one value. -/
def set (headers : Headers) (name value : String) : Headers :=
  let stored := sanitize value
  ⟨upsert (sanitize name) (fun _ => #[stored]) #[stored] headers.entries⟩

/-- The values of a field in arrival order. The name is taken as given. -/
def all? (headers : Headers) (name : String) : Option (List String) :=
  (headers.entries.find? (isNamed name)).map (·.values.toList)

def erase (headers : Headers) (name : String) : Headers :=
  ⟨headers.entries.eraseP (isNamed name)⟩

def first? (headers : Headers) (name : String) : Option String :=
  (headers.all? name).bind (·.head?)

def last? (headers : Headers) (name : String) : Option String :=
  (headers.all? name).bind (·.getLast?)

/-- The value of a field that may appear at most once. -/
def single (headers : Headers) (name : String) : Single :=
  match headers.all? name with
  | none => .absent
  | some [value] => .value value
  | some _ => .repeated

def contains (headers : Headers) (name : String) : Bool :=
  (headers.all? name).isSome

def size (headers : Headers) : Nat :=
  headers.entries.length

def isEmpty (headers : Headers) : Bool :=
  headers.entries.isEmpty

/-- The name and value of each line, the values of one name together. -/
def toList (headers : Headers) : List (String × String) :=
  headers.entries.flatMap fun entry => entry.values.toList.map fun value => (entry.name, value)

/-- Gives a field the values of an entry. -/
def override (headers : Headers) (entry : HeaderEntry) : Headers :=
  match entry.values.toList with
  | [] => headers
  | value :: rest =>
      rest.foldl (fun held next => held.append entry.name next) (headers.set entry.name value)

/-- Overrides this map field by field with another. -/
def merge (headers other : Headers) : Headers :=
  other.entries.foldl override headers

/-- The declared length of the body: zero if it is absent or cannot be read. -/
def contentLength (headers : Headers) : Nat :=
  ((headers.first? "Content-Length").bind fun value => Text.readSize? value.toList).getD 0

end Headers

end HttpService
