/-!
Contract: one cut of a list at a separator.

Owns: the cut at the first separator, and the cut of a fixed beginning or end.

Does not own: the cut at every separator, which is `List.splitOn`.
-/

namespace HttpService.Text

variable {α : Type} [BEq α]

/-- What stands before and after the first separator, if there is one. -/
def cut? (separator : α) (items : List α) : Option (List α × List α) :=
  match items.dropWhile (· != separator) with
  | [] => none
  | _ :: after => some (items.takeWhile (· != separator), after)

/-- What stands after a separator is shorter than the whole. -/
theorem cut?_length {separator : α} {items front after : List α}
    (found : cut? separator items = some (front, after)) : after.length < items.length := by
  simp only [cut?] at found
  split at found
  · cases found
  · rename_i head tail dropped
    cases found
    have bound := (List.dropWhile_sublist (p := (· != separator)) (l := items)).length_le
    rw [dropped] at bound
    simp only [List.length_cons] at bound
    omega

/-- The items before the first separator: all of them if there is none. -/
def before (separator : α) (items : List α) : List α :=
  items.takeWhile (· != separator)

/-- A list without one separator at its beginning. -/
def dropLead (separator : α) : List α → List α
  | [] => []
  | head :: tail => if head == separator then tail else head :: tail

/-- A list without one separator at its end. -/
def dropTrail (separator : α) (items : List α) : List α :=
  if items.getLast? == some separator then items.dropLast else items

end HttpService.Text
