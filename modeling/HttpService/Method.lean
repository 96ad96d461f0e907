/-!
Contract: the eight request methods and their tokens.

Owns: the methods, their spelling, and which of them carry a body that is read.
-/

namespace HttpService

inductive Method where
  | get | head | post | put | delete | patch | options | trace
deriving DecidableEq, Repr

namespace Method

def all : List Method :=
  [get, head, post, put, delete, patch, options, trace]

def token : Method → String
  | get => "GET"
  | head => "HEAD"
  | post => "POST"
  | put => "PUT"
  | delete => "DELETE"
  | patch => "PATCH"
  | options => "OPTIONS"
  | trace => "TRACE"

/-- The method with a token; tokens are case-sensitive. -/
def ofToken? (token : String) : Option Method :=
  all.find? (·.token == token)

/-- Whether the body of a request is read at all. -/
def hasBody : Method → Bool
  | post | put | delete | patch => true
  | _ => false

theorem ofToken?_token (method : Method) : ofToken? method.token = some method := by
  cases method <;> decide

end Method

end HttpService
