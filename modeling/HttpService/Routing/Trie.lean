import HttpService.Routing.Pattern

/-!
Contract: a trie over path segments that finds the most specific pattern.

Owns:
- the keys of nodes, in which capture names do not count;
- insertion, which keeps the place in the order of registration when it replaces;
- the search for the best match of a path, and what it captures;
- the stored entries in order of registration.

Does not own: targets and namespaces.
-/

namespace HttpService.Routing

/-- The key of a node: an exact segment, or any segment within constraints. -/
inductive Key where
  | exact (text : String)
  | wildcard (opening closing : String)
deriving DecidableEq, Repr

/-- The key under which a segment is stored. -/
def Segment.key : Segment → Key
  | literal text => .exact text
  | dynamic _ opening closing => .wildcard opening closing

/-- Whether a path segment has a key: between the constraints of a wildcard at
least one character has to be left. -/
def Key.accepts (key : Key) (segment : String) : Bool :=
  match key with
  | exact text => text == segment
  | wildcard opening closing =>
      opening.length + closing.length < segment.length &&
        opening.toList.isPrefixOf segment.toList && closing.toList.isSuffixOf segment.toList

/-- The keys of a pattern from the root on. -/
def Pattern.keys (pattern : Pattern) : List Key :=
  pattern.segments.map Segment.key

/-- What the dynamic segments of a pattern capture, and how specific they are. -/
structure Matcher where
  /-- Index and name of each dynamic segment. -/
  captures : List (Nat × String)
  /-- How many there are. -/
  total : Nat
  /-- The index of the first one. -/
  first : Nat
  /-- How many constraints they carry. -/
  constrained : Nat
deriving DecidableEq, Repr

/-- The constraints of a segment that are not empty. -/
def Segment.constraints : Segment → Nat
  | literal _ => 0
  | dynamic _ opening closing => (if opening = "" then 0 else 1) + (if closing = "" then 0 else 1)

/-- The dynamic segments with their indices, counted from `index`. -/
def capturesFrom (index : Nat) : List Segment → List (Nat × String)
  | [] => []
  | .literal _ :: rest => capturesFrom (index + 1) rest
  | .dynamic name _ _ :: rest => (index, name) :: capturesFrom (index + 1) rest

/-- The matcher of a pattern; static patterns have none. -/
def Matcher.ofPattern? (pattern : Pattern) : Option Matcher :=
  match capturesFrom 0 pattern.segments with
  | [] => none
  | (first, name) :: rest =>
      some
        { captures := (first, name) :: rest
          total := rest.length + 1
          first := first
          constrained := pattern.segments.foldr (fun segment count => segment.constraints + count) 0 }

def Matcher.extract (matcher : Matcher) (path : List String) : List (String × String) :=
  matcher.captures.filterMap fun (index, name) => path[index]?.map fun segment => (name, segment)

/-- The more specific matcher comes first: fewer dynamic segments, then more
constraints, then a later first dynamic segment. -/
def Matcher.compare (left right : Matcher) : Ordering :=
  (Ord.compare left.total right.total).then
    ((Ord.compare right.constrained left.constrained).then
      (Ord.compare right.first left.first))

/-- A stored value with the pattern of its latest registration, and the place of
its first one. -/
structure Entry (α : Type) where
  value : α
  pattern : Pattern
  matcher : Option Matcher
  place : Nat

/-- The better entry comes first: static before dynamic, then by matcher, then by
place. -/
def Entry.compare {α : Type} (left right : Entry α) : Ordering :=
  (match left.matcher, right.matcher with
    | none, none => Ordering.eq
    | none, some _ => Ordering.lt
    | some _, none => Ordering.gt
    | some left, some right => left.compare right).then
  (Ord.compare left.place right.place)

/-- A node: its key, the entry stored there and the nodes below. -/
inductive Node (α : Type) where
  | node (key : Key) (entry : Option (Entry α)) (children : List (Node α))

namespace Node

variable {α : Type}

def key : Node α → Key
  | node key _ _ => key

def entry : Node α → Option (Entry α)
  | node _ entry _ => entry

def children : Node α → List (Node α)
  | node _ _ children => children

/-- A node with nothing stored at it or below it. -/
def bare (key : Key) : Node α :=
  node key none []

def child? (key : Key) (children : List (Node α)) : Option (Node α) :=
  children.find? (·.key = key)

/-- Changes the child with a key, which is added as the last one if it is missing. -/
def updateChild (key : Key) (change : Node α → Node α) : List (Node α) → List (Node α)
  | [] => [change (bare key)]
  | child :: rest =>
      if child.key = key then change child :: rest else child :: updateChild key change rest

/-- Stores an entry at the end of a way down. -/
def store (entry : Entry α) : List Key → Node α → Node α
  | [], node key _ children => node key (some entry) children
  | next :: keys, node key held children =>
      node key held (updateChild next (store entry keys) children)

/-- The node at the end of a way down. -/
def descend? : List Key → Node α → Option (Node α)
  | [], here => some here
  | next :: keys, here => (child? next here.children).bind (descend? keys)

/-- The nodes that a path leads to from the given ones. -/
def reach (path : List String) (nodes : List (Node α)) : List (Node α) :=
  match path with
  | [] => nodes
  | segment :: path =>
      reach path ((nodes.flatMap children).filter (·.key.accepts segment))

mutual

/-- The entries at a node and below it. -/
def entries : Node α → List (Entry α)
  | node _ entry children => entry.toList ++ entriesBelow children

/-- The entries at some nodes and below them. -/
def entriesBelow : List (Node α) → List (Entry α)
  | [] => []
  | child :: rest => child.entries ++ entriesBelow rest

end

end Node

/-- The best of some entries; of equals the first. -/
def best? {α : Type} (entries : List (Entry α)) : Option (Entry α) :=
  match entries with
  | [] => none
  | first :: rest =>
      some (rest.foldl (fun best next => if next.compare best = .lt then next else best) first)

structure Match (α : Type) where
  value : α
  pattern : Pattern
  params : List (String × String)
deriving Repr

structure Trie (α : Type) where
  root : Node α
  /-- The place of the next new structure. -/
  nextPlace : Nat
  /-- How many structures are stored. -/
  size : Nat

namespace Trie

variable {α : Type}

def empty : Trie α :=
  ⟨.bare (.exact ""), 0, 0⟩

instance : Inhabited (Trie α) := ⟨empty⟩

def isEmpty (trie : Trie α) : Bool :=
  trie.size == 0

/-- The entry stored for the structure of a pattern. -/
def entry? (trie : Trie α) (pattern : Pattern) : Option (Entry α) :=
  (trie.root.descend? pattern.keys).bind Node.entry

/-- Whether a pattern of the same structure is stored. -/
def contains (trie : Trie α) (pattern : Pattern) : Bool :=
  (trie.entry? pattern).isSome

/-- Stores a value, and returns the one that it replaces. A replacement keeps the
place of the first registration. -/
def insert (trie : Trie α) (pattern : Pattern) (value : α) : Option α × Trie α :=
  let entry := fun (place : Nat) => Entry.mk value pattern (Matcher.ofPattern? pattern) place
  match trie.entry? pattern with
  | some held =>
      (some held.value, { trie with root := trie.root.store (entry held.place) pattern.keys })
  | none =>
      (none,
        { root := trie.root.store (entry trie.nextPlace) pattern.keys
          nextPlace := trie.nextPlace + 1
          size := trie.size + 1 })

/-- The most specific match of a path. -/
def find? (trie : Trie α) (path : List String) : Option (Match α) :=
  (best? ((Node.reach path [trie.root]).filterMap Node.entry)).map fun entry =>
    { value := entry.value
      pattern := entry.pattern
      params := (entry.matcher.map (·.extract path)).getD [] }

/-- Stored patterns and values in order of registration. -/
def toList (trie : Trie α) : List (Pattern × α) :=
  (trie.root.entries.mergeSort (fun left right => left.place ≤ right.place)).map fun entry =>
    (entry.pattern, entry.value)

end Trie

end HttpService.Routing
