import HttpService.Pipeline.Endpoint

/-!
Contract: middleware, and the chains it forms.

Owns: what a middleware is given, and the composition of a list of middleware with
the end of the chain.

Does not own: the middleware that every service runs.
-/

namespace HttpService

/-- The rest of a chain: how many middleware it still has, and how to run it. It may
be run any number of times. -/
structure Chain (World : Type) where
  remaining : Nat
  proceed : Response → Request → Job World (Outcome World)

/-- A middleware is given the rest of the chain, and decides whether to run it. -/
abbrev Middleware (World : Type) :=
  Chain World → Response → Request → Job World (Outcome World)

namespace Chain

variable {World : Type}

/-- The chain of some middleware and an end. -/
def ofList (terminal : Response → Request → Job World (Outcome World)) :
    List (Middleware World) → Chain World
  | [] => ⟨0, terminal⟩
  | next :: rest => ⟨rest.length + 1, next (ofList terminal rest)⟩

end Chain

end HttpService
