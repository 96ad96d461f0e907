/-!
Contract: what the service reports about its work.

Owns: log records and their levels.

Does not own: where records go.
-/

namespace HttpService

inductive LogLevel where
  | error | warn | info | debug
deriving DecidableEq, Repr

structure LogRecord where
  level : LogLevel
  text : String
deriving DecidableEq, Repr

end HttpService
