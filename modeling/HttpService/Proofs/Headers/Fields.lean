import HttpService.Headers

/-!
Contract: a header map as the list of the fields that were added to it.

Owns:
- what adding a field changes in the values of each name;
- the map that a list of fields comes to, and its values by name;
- the first value of a name, and the body length that follows from it.

Does not own: replacing and removing fields, and the casing of stored names.
-/

namespace HttpService.Headers

theorem find?_upsert (name query : String) (change : Array String → Array String)
    (fresh : Array String) (entries : List HeaderEntry) :
    (upsert name change fresh entries).find? (isNamed query) =
      if foldCase name = foldCase query then
        match entries.find? (isNamed query) with
        | some entry => some { entry with values := change entry.values }
        | none => some ⟨name, foldCase name, fresh⟩
      else entries.find? (isNamed query) := by
  induction entries with
  | nil =>
      by_cases same : foldCase name = foldCase query
      · simp [upsert, isNamed, same]
      · simp [upsert, isNamed, same]
  | cons entry rest inductionHypothesis =>
      by_cases here : entry.folded = foldCase name
      · by_cases same : foldCase name = foldCase query
        · simp [upsert, isNamed, here, same]
        · simp [upsert, isNamed, here, same]
      · by_cases found : entry.folded = foldCase query
        · have different : ¬ foldCase name = foldCase query := by
            intro same
            exact here (found.trans same.symm)
          simp [upsert, isNamed, found, different, Ne.symm different]
        · have stays : upsert name change fresh (entry :: rest) =
              entry :: upsert name change fresh rest := by
            simp [upsert, isNamed, here]
          have skipped : isNamed query entry = false := by simp [isNamed, found]
          rw [stays, List.find?_cons, List.find?_cons, skipped]
          exact inductionHypothesis

theorem all?_append (headers : Headers) (name value query : String) :
    (headers.append name value).all? query =
      if foldCase (sanitize name) = foldCase query then
        some ((headers.all? query).getD [] ++ [sanitize value])
      else headers.all? query := by
  unfold all? append
  rw [find?_upsert]
  by_cases same : foldCase (sanitize name) = foldCase query
  · rw [if_pos same, if_pos same]
    cases headers.entries.find? (isNamed query) with
    | none => rfl
    | some entry => simp
  · rw [if_neg same, if_neg same]

/-- The map after adding fields one after the other. -/
def ofFields (fields : List (String × String)) : Headers :=
  fields.foldl (fun held field => held.append field.1 field.2) .empty

/-- What the fields with a name hold, as it is stored. -/
def storedValues (name : String) (fields : List (String × String)) : List String :=
  (fields.filter fun field => foldCase (sanitize field.1) = foldCase name).map fun field =>
    sanitize field.2

theorem all?_foldl_append (name : String) (fields : List (String × String))
    (headers : Headers) :
    (fields.foldl (fun held field => held.append field.1 field.2) headers).all? name =
      if storedValues name fields = [] then headers.all? name
      else some ((headers.all? name).getD [] ++ storedValues name fields) := by
  induction fields generalizing headers with
  | nil => rfl
  | cons field rest inductionHypothesis =>
      rw [List.foldl_cons, inductionHypothesis, all?_append]
      by_cases same : foldCase (sanitize field.1) = foldCase name
      · have values : storedValues name (field :: rest) =
            sanitize field.2 :: storedValues name rest := by
          simp [storedValues, same]
        have filled : ¬ sanitize field.2 :: storedValues name rest = [] := by simp
        rw [values, if_pos same, if_neg filled]
        by_cases last : storedValues name rest = []
        · rw [if_pos last, last]
        · rw [if_neg last, Option.getD_some, List.append_assoc, List.singleton_append]
      · have values : storedValues name (field :: rest) = storedValues name rest := by
          simp [storedValues, same]
        rw [values, if_neg same]

theorem all?_ofFields (name : String) (fields : List (String × String)) :
    (ofFields fields).all? name =
      if storedValues name fields = [] then none else some (storedValues name fields) :=
  all?_foldl_append name fields .empty

theorem first?_ofFields (name : String) (fields : List (String × String)) :
    (ofFields fields).first? name = (storedValues name fields).head? := by
  unfold first?
  rw [all?_ofFields]
  by_cases none : storedValues name fields = []
  · rw [if_pos none, none]
    rfl
  · rw [if_neg none]
    rfl

/-! ## Fields that are stored as they are -/

theorem sanitize_eq_self {text : String} (storable : ∀ c ∈ text.toList, isFieldChar c = true) :
    sanitize text = text := by
  unfold sanitize
  rw [List.filter_eq_self.mpr storable, String.ofList_toList]

/-- The value of the first field with a name, casing aside. -/
def firstField? (name : String) (fields : List (String × String)) : Option String :=
  (fields.find? fun field => foldCase field.1 = foldCase name).map Prod.snd

theorem first?_ofFields_of_storable {fields : List (String × String)}
    (storable : ∀ field ∈ fields, sanitize field.1 = field.1 ∧ sanitize field.2 = field.2)
    (name : String) : (ofFields fields).first? name = firstField? name fields := by
  rw [first?_ofFields]
  induction fields with
  | nil => rfl
  | cons field rest inductionHypothesis =>
      obtain ⟨sameName, sameValue⟩ := storable field (by simp)
      have further := inductionHypothesis fun other member =>
        storable other (List.mem_cons_of_mem field member)
      unfold storedValues firstField? at further ⊢
      by_cases same : foldCase field.1 = foldCase name
      · simp [sameName, sameValue, same]
      · simp only [sameName, same, decide_false, List.filter_cons, List.find?_cons,
          Bool.false_eq_true, if_false]
        exact further

end HttpService.Headers
