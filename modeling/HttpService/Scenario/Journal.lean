import HttpService.Fault

/-!
Contract: what scripted handlers leave behind.

Owns:
- the journal, a list of entries in the order in which they were written, and the number of
  identifiers given out;
- the errors of scripts, whose wording is a text.
-/

namespace HttpService.Scenario

inductive JournalEntry where
  | text (text : String)
  /-- A request, and the query parameters to show with it. -/
  | snapshot (request : Request) (keys : List String)
  | response (response : Response)
  /-- Whether the deadline has passed, and the seconds left. -/
  | deadline (expired : Bool) (seconds : Option Nat)
  /-- How many middleware the rest of the chain has. -/
  | remaining (count : Nat)
  /-- An error that a middleware has caught. -/
  | caught (text : String)
  /-- An error inside a responder. -/
  | responderError (text : String)

/-- The world of scripted handlers. -/
structure Journal where
  entries : List JournalEntry
  /-- How many identifiers have been given out. -/
  issued : Nat

namespace Journal

/-- Nothing written. -/
def empty : Journal := ⟨[], 0⟩

def write (journal : Journal) (entry : JournalEntry) : Journal :=
  { journal with entries := journal.entries ++ [entry] }

end Journal

/-- What a script may end with instead of success. -/
abbrev Fault := HttpService.Fault Journal

abbrev HttpError := HttpService.HttpError Journal

/-- What is said in an empty journal. -/
def said (wording : Action Journal String) : String :=
  match (wording 0 .empty).1 with
  | .ok text => text
  | .error payload => payload.message

def Fault.message (fault : Fault) : String :=
  said (HttpService.Fault.message fault)

def HttpError.message (error : HttpError) : String :=
  said (HttpService.HttpError.message error)

end HttpService.Scenario
