import HttpService.Proofs.Headers.Fields

/-!
Contract: what writing some fields leaves of the others.

Owns:
- the values of every name after one field has been replaced;
- where a new field stands;
- maps that have no field of a name, and what merging them leaves of that name.

Does not own: removing fields.
-/

namespace HttpService.Headers

theorem all?_set (headers : Headers) (name value query : String) :
    (headers.set name value).all? query =
      if foldCase (sanitize name) = foldCase query then some [sanitize value]
      else headers.all? query := by
  unfold all? set
  rw [find?_upsert]
  by_cases same : foldCase (sanitize name) = foldCase query
  · rw [if_pos same, if_pos same]
    cases headers.entries.find? (isNamed query) with
    | none => rfl
    | some entry => rfl
  · rw [if_neg same, if_neg same]

section

variable {headers : Headers} {name query : String}

theorem all?_set_self (headers : Headers) (name value : String) :
    (headers.set name value).all? (sanitize name) = some [sanitize value] := by
  rw [all?_set, if_pos rfl]

theorem all?_set_of_ne (other : foldCase (sanitize name) ≠ foldCase query) (value : String) :
    (headers.set name value).all? query = headers.all? query := by
  rw [all?_set, if_neg other]

theorem all?_append_of_ne (other : foldCase (sanitize name) ≠ foldCase query) (value : String) :
    (headers.append name value).all? query = headers.all? query := by
  rw [all?_append, if_neg other]

/-! ## New fields -/

theorem upsert_of_absent (change : Array String → Array String) (fresh : Array String) :
    ∀ {entries : List HeaderEntry}, entries.find? (isNamed name) = none →
      upsert name change fresh entries = entries ++ [⟨name, foldCase name, fresh⟩]
  | [], _ => rfl
  | entry :: rest, absent => by
      rw [List.find?_cons] at absent
      cases named : isNamed name entry with
      | true =>
          rw [named] at absent
          cases absent
      | false =>
          rw [named] at absent
          rw [upsert, if_neg (by rw [named]; decide), upsert_of_absent change fresh absent]
          rfl

theorem contains_set_self (headers : Headers) (name value : String) :
    (headers.set name value).contains (sanitize name) = true := by
  unfold contains
  rw [all?_set_self]
  rfl

/-- A new field is the last one. -/
theorem toList_set_of_absent (absent : headers.contains (sanitize name) = false)
    (value : String) :
    (headers.set name value).toList = headers.toList ++ [(sanitize name, sanitize value)] := by
  have none : headers.entries.find? (isNamed (sanitize name)) = none := by
    unfold contains all? at absent
    rw [Option.isSome_map, Option.isSome_eq_false_iff, Option.isNone_iff_eq_none] at absent
    exact absent
  unfold set toList
  simp only
  rw [upsert_of_absent _ _ none, List.flatMap_append]
  rfl

/-! ## Merging -/

/-- No field of the map is stored under a name. -/
def Spares (headers : Headers) (name : String) : Prop :=
  ∀ entry ∈ headers.entries, foldCase (sanitize entry.name) ≠ foldCase name

theorem spares_empty (name : String) : Headers.empty.Spares name :=
  fun _ member => nomatch member

theorem spares_set_empty (other : foldCase (sanitize (sanitize name)) ≠ foldCase query)
    (value : String) : (Headers.empty.set name value).Spares query := by
  intro entry member
  rw [List.mem_singleton.mp member]
  exact other

theorem all?_foldl_append_of_ne (other : foldCase (sanitize name) ≠ foldCase query)
    (values : List String) : ∀ headers : Headers,
      (values.foldl (fun held next => held.append name next) headers).all? query =
        headers.all? query := by
  induction values with
  | nil => exact fun _ => rfl
  | cons value rest inductionHypothesis =>
      intro headers
      rw [List.foldl_cons, inductionHypothesis, all?_append_of_ne other]

theorem all?_override_of_ne {entry : HeaderEntry}
    (other : foldCase (sanitize entry.name) ≠ foldCase query) (headers : Headers) :
    (headers.override entry).all? query = headers.all? query := by
  unfold override
  cases entry.values.toList with
  | nil => rfl
  | cons value rest =>
      simp only
      rw [all?_foldl_append_of_ne other, all?_set_of_ne other]

/-- Merging leaves the names alone that the other map spares. -/
theorem all?_merge_of_spares {other : Headers} (spares : other.Spares query) (headers : Headers) :
    (headers.merge other).all? query = headers.all? query := by
  obtain ⟨entries⟩ := other
  show (entries.foldl override headers).all? query = _
  induction entries generalizing headers with
  | nil => rfl
  | cons entry rest inductionHypothesis =>
      have further := inductionHypothesis (headers.override entry)
        fun later member => spares later (List.mem_cons_of_mem entry member)
      rw [List.foldl_cons, further, all?_override_of_ne (spares entry List.mem_cons_self)]

end

end HttpService.Headers
