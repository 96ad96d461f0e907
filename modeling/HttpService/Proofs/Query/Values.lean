import HttpService.Query
import Mathlib.Data.Finset.Card
import Mathlib.Data.Finset.Dedup

/-!
Contract: what a query holds after parameters have been added.

Owns:
- adding parameters in turn, which is what reading a raw query does;
- the values of a key behind those that it has had before;
- the keys, which stay distinct, and their number.

Does not own: how a raw query is read.
-/

namespace HttpService.Query

/-- Adds parameters in turn. -/
def addAll (query : Query) (parameters : List (String × String)) : Query :=
  parameters.foldl (fun held (key, value) => held.insert key value) query

/-- The values that parameters give to a key, in their order. -/
def valuesOf (key : String) (parameters : List (String × String)) : List String :=
  (parameters.filter (·.1 = key)).map (·.2)

/-- The values of a key with more of them behind. A key that gets none stays as it is. -/
def grown (held : Option (List String)) (more : List String) : Option (List String) :=
  if more = [] then held else some (held.getD [] ++ more)

theorem extend_of_isReadable {raw : String} (readable : isReadable raw = true) (query : Query) :
    query.extend raw = .ok (query.addAll (decodeForm (Utf8.encode raw))) :=
  if_pos readable

theorem addAll_append (query : Query) (front back : List (String × String)) :
    query.addAll (front ++ back) = (query.addAll front).addAll back :=
  List.foldl_append

theorem lookup_addValue (key value other : String) (entries : List (String × Array String)) :
    (addValue key value entries).lookup other =
      if other = key then some (((entries.lookup key).getD #[]).push value)
      else entries.lookup other := by
  induction entries with
  | nil =>
      by_cases same : other = key
      · simp [addValue, same]
      · simp [addValue, same]
  | cons entry rest inductionHypothesis =>
      obtain ⟨held, values⟩ := entry
      unfold addValue
      by_cases here : held = key
      · subst here
        by_cases same : other = held
        · simp [same]
        · simp [same, List.lookup_cons, beq_eq_false_iff_ne.mpr same]
      · rw [if_neg here]
        by_cases found : other = held
        · subst found
          simp [here]
        · simp only [List.lookup_cons, beq_eq_false_iff_ne.mpr found,
            beq_eq_false_iff_ne.mpr (Ne.symm here), inductionHypothesis]

theorem all?_insert (query : Query) (key value other : String) :
    (query.insert key value).all? other =
      if other = key then some ((query.all? key).getD [] ++ [value]) else query.all? other := by
  unfold all? insert
  rw [lookup_addValue]
  by_cases same : other = key
  · rw [if_pos same, if_pos same, Option.map_some, Array.toList_push]
    cases query.entries.lookup key <;> rfl
  · rw [if_neg same, if_neg same]

theorem grown_grown (held : Option (List String)) (first second : List String) :
    grown (grown held first) second = grown held (first ++ second) := by
  unfold grown
  by_cases none : first = []
  · simp [none]
  · by_cases last : second = []
    · simp [none, last]
    · simp [none, last]

/-- **Added values come behind those that a key has.** -/
theorem all?_addAll (parameters : List (String × String)) (query : Query) (key : String) :
    (query.addAll parameters).all? key = grown (query.all? key) (valuesOf key parameters) := by
  induction parameters generalizing query with
  | nil => rfl
  | cons parameter rest inductionHypothesis =>
      obtain ⟨added, value⟩ := parameter
      show ((query.insert added value).addAll rest).all? key = _
      rw [inductionHypothesis, all?_insert]
      unfold valuesOf
      by_cases same : key = added
      · subst same
        have first : some ((query.all? key).getD [] ++ [value]) =
          grown (query.all? key) [value] := rfl
        rw [if_pos rfl, first, grown_grown]
        simp
      · rw [if_neg same, List.filter_cons_of_neg (by simpa using Ne.symm same)]

theorem valuesOf_replicate (key : String) (count : Nat) (parameters : List (String × String)) :
    valuesOf key (List.replicate count parameters).flatten =
      (List.replicate count (valuesOf key parameters)).flatten := by
  unfold valuesOf
  rw [List.filter_flatten, List.map_flatten, List.map_replicate, List.map_replicate]

/-! ## Keys -/

/-- The keys of a query, in order of first appearance. -/
def keys (query : Query) : List String :=
  query.entries.map Prod.fst

/-- No key has two entries. -/
def Distinct (query : Query) : Prop :=
  query.keys.Nodup

theorem distinct_empty : Distinct .empty :=
  List.nodup_nil

theorem contains_iff_mem_keys (query : Query) (key : String) :
    query.contains key = true ↔ key ∈ query.keys := by
  unfold contains all? keys
  rw [Option.isSome_map]
  simp

/-- A key is new, and the last one, unless it is known. -/
theorem keys_insert (query : Query) (key value : String) :
    (query.insert key value).keys =
      if key ∈ query.keys then query.keys else query.keys ++ [key] := by
  obtain ⟨entries⟩ := query
  unfold keys insert
  induction entries with
  | nil => rfl
  | cons entry rest inductionHypothesis =>
      obtain ⟨held, values⟩ := entry
      simp only at inductionHypothesis ⊢
      unfold addValue
      by_cases here : held = key
      · simp [here]
      · rw [if_neg here, List.map_cons, inductionHypothesis]
        simp only [List.map_cons, List.mem_cons, Ne.symm here, false_or]
        split
        · rfl
        · rfl

theorem Distinct.insert {query : Query} (distinct : query.Distinct) (key value : String) :
    (query.insert key value).Distinct := by
  unfold Distinct
  rw [keys_insert]
  split
  · exact distinct
  · rename_i unknown
    refine List.nodup_append.mpr ⟨distinct, by simp, ?_⟩
    intro known member added single same
    exact unknown (List.mem_singleton.mp single ▸ same ▸ member)

theorem Distinct.addAll (parameters : List (String × String)) {query : Query}
    (distinct : query.Distinct) : (query.addAll parameters).Distinct := by
  induction parameters generalizing query with
  | nil => exact distinct
  | cons parameter rest inductionHypothesis =>
      exact inductionHypothesis (distinct.insert parameter.1 parameter.2)

/-- The keys are the old ones and those of the parameters. -/
theorem toFinset_keys_addAll (parameters : List (String × String)) (query : Query) :
    (query.addAll parameters).keys.toFinset =
      (query.keys ++ parameters.map Prod.fst).toFinset := by
  induction parameters generalizing query with
  | nil => simp [addAll]
  | cons parameter rest inductionHypothesis =>
      have step : (query.addAll (parameter :: rest)).keys.toFinset =
          ((query.insert parameter.1 parameter.2).keys ++ rest.map Prod.fst).toFinset :=
        inductionHypothesis _
      rw [step, keys_insert]
      split
      · rename_i known
        have held : parameter.1 ∈ query.keys.toFinset := List.mem_toFinset.mpr known
        rw [List.map_cons, List.toFinset_append, List.toFinset_append, List.toFinset_cons,
          Finset.union_insert, Finset.insert_eq_of_mem (Finset.mem_union_left _ held)]
      · rw [List.append_assoc, List.map_cons, List.singleton_append]

/-- A query has one entry for each key, old and added ones together. -/
theorem size_addAll {query : Query} (distinct : query.Distinct)
    (parameters : List (String × String)) :
    (query.addAll parameters).size =
      (query.keys ++ parameters.map Prod.fst).toFinset.card := by
  rw [← toFinset_keys_addAll, List.toFinset_card_of_nodup (distinct.addAll parameters)]
  exact (List.length_map _).symm

end HttpService.Query
