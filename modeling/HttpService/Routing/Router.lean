import HttpService.Routing.Trie
import HttpService.Target

/-!
Contract: registered routes, and the route that a target takes.

Owns: the namespace in front of every route, single and grouped registration,
and the path parameters that a route leaves on a target.

Does not own: what is stored under a route.
-/

namespace HttpService.Routing

/-- Routes under a common namespace. -/
structure Router (α : Type) where
  routes : Trie α
  base : Pattern

namespace Router

variable {α : Type}

/-- A router without routes, under the root. -/
def empty : Router α :=
  ⟨.empty, .root⟩

instance : Inhabited (Router α) := ⟨empty⟩

/-- A router without routes under a namespace. -/
def ofNamespace (base : String) : Except PatternError (Router α) :=
  (Pattern.ofRoute base).map fun base => ⟨.empty, base⟩

/-- The pattern of a route inside a namespace. -/
def resolve (base : Pattern) (pattern : String) : Except PatternError Pattern :=
  match Pattern.ofRoute pattern with
  | .error error => .error error
  | .ok pattern => pattern.under base

/-- Registers a value, and returns the one that it replaces. -/
def add (router : Router α) (pattern : String) (value : α) :
    Except PatternError (Option α × Router α) :=
  match resolve router.base pattern with
  | .error error => .error error
  | .ok pattern =>
      let (replaced, routes) := router.routes.insert pattern value
      .ok (replaced, { router with routes := routes })

/-- Registers values under a pattern one after the other, up to the first that
fails; the ones before it stay. -/
def addEach (base : Pattern) (router : Router α) :
    List (String × α) → Option PatternError × Router α
  | [] => (none, router)
  | (pattern, value) :: rest =>
      match resolve base pattern with
      | .error error => (some error, router)
      | .ok pattern =>
          addEach base { router with routes := (router.routes.insert pattern value).2 } rest

/-- Registers values under a namespace within that of the router. -/
def addUnder (router : Router α) (base : String) (routes : List (String × α)) :
    Option PatternError × Router α :=
  match resolve router.base base with
  | .error error => (some error, router)
  | .ok base => router.addEach base routes

/-- The value for a target, and the target with its path parameters. -/
def route? (router : Router α) (target : Target) : Option (α × Target) :=
  if target.isAsterisk then none
  else
    (router.routes.find? target.path).map fun found =>
      (found.value, { target with pathParams := found.params })

/-- Registered patterns and values in order of registration. -/
def toList (router : Router α) : List (Pattern × α) :=
  router.routes.toList

def size (router : Router α) : Nat :=
  router.routes.size

def isEmpty (router : Router α) : Bool :=
  router.routes.isEmpty

end Router

end HttpService.Routing
