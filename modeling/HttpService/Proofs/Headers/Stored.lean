import HttpService.Proofs.Headers.Fields

/-!
Contract: what a header map holds that has been filled by its own operations.

Owns:
- maps that any sequence of operations has built, from any texts;
- that **such a map holds field characters only, a value under every name, and no name twice**;
- the values of a name in such a map as those of the lines with that name, and what the lookups
  say of them;
- the names in a map that a list of fields comes to.

Does not own: where the texts come from, and how the lines are sent.
-/

namespace HttpService

/-- A text of field characters only. -/
def Storable (text : String) : Prop :=
  ∀ c ∈ text.toList, isFieldChar c = true

theorem storable_sanitize (raw : String) : Storable (sanitize raw) := by
  intro c member
  unfold sanitize at member
  rw [String.toList_ofList] at member
  exact (List.mem_filter.mp member).2

/-- An entry with a name and values that may be stored, with at least one value, and found under its
own name. -/
structure HeaderEntry.Sendable (entry : HeaderEntry) : Prop where
  name : Storable entry.name
  folded : entry.folded = foldCase entry.name
  values : ∀ value ∈ entry.values.toList, Storable value
  filled : entry.values.toList ≠ []

theorem HeaderEntry.Sendable.push {entry : HeaderEntry} (sendable : entry.Sendable)
    {value : String} (storable : Storable value) :
    HeaderEntry.Sendable { entry with values := entry.values.push value } where
  name := sendable.name
  folded := sendable.folded
  values := by
    intro other member
    rw [Array.toList_push, List.mem_append, List.mem_singleton] at member
    rcases member with held | rfl
    · exact sendable.values other held
    · exact storable
  filled := by simp

theorem HeaderEntry.sendable_singleton {name folded value : String} (stored : Storable name)
    (same : folded = foldCase name) (storable : Storable value) :
    HeaderEntry.Sendable ⟨name, folded, #[value]⟩ where
  name := stored
  folded := same
  values := by
    intro other member
    rw [List.mem_singleton.mp member]
    exact storable
  filled := List.cons_ne_nil value []

namespace Headers

/-! ## Entries -/

section

variable {name : String} {change : Array String → Array String} {fresh : Array String}

theorem forall_mem_upsert {holds : HeaderEntry → Prop}
    (changed : ∀ entry, holds entry → holds { entry with values := change entry.values })
    (added : holds ⟨name, foldCase name, fresh⟩) : ∀ {entries : List HeaderEntry},
      (∀ entry ∈ entries, holds entry) → ∀ entry ∈ upsert name change fresh entries, holds entry
  | [], _ => by
      intro entry member
      rw [List.mem_singleton.mp member]
      exact added
  | first :: rest, each => by
      have further := forall_mem_upsert changed added fun entry member =>
        each entry (List.mem_cons_of_mem first member)
      have here := each first List.mem_cons_self
      intro entry member
      rw [upsert] at member
      split at member
      · rcases List.mem_cons.mp member with rfl | later
        · exact changed first here
        · exact each entry (List.mem_cons_of_mem first later)
      · rcases List.mem_cons.mp member with rfl | later
        · exact here
        · exact further entry later

/-- The names under which entries are found. -/
def foldedNames (entries : List HeaderEntry) : List String :=
  entries.map HeaderEntry.folded

/-- A name is new, and the last one, unless it is known. -/
theorem foldedNames_upsert (name : String) (change : Array String → Array String)
    (fresh : Array String) (entries : List HeaderEntry) :
    foldedNames (upsert name change fresh entries) =
      if foldCase name ∈ foldedNames entries then foldedNames entries
      else foldedNames entries ++ [foldCase name] := by
  unfold foldedNames
  induction entries with
  | nil => rfl
  | cons entry rest inductionHypothesis =>
      rw [upsert]
      by_cases named : entry.folded = foldCase name
      · rw [if_pos (by simp [isNamed, named])]
        simp [named]
      · rw [if_neg (by simp [isNamed, named]), List.map_cons, inductionHypothesis]
        simp only [List.map_cons, List.mem_cons, Ne.symm named, false_or]
        split <;> rfl

end

/-! ## Tidy maps -/

/-- All that is held can be sent, and no two entries share a name. -/
structure Tidy (headers : Headers) : Prop where
  sendable : ∀ entry ∈ headers.entries, entry.Sendable
  distinct : (foldedNames headers.entries).Nodup

theorem tidy_empty : Tidy .empty :=
  ⟨fun _ member => (nomatch member), List.nodup_nil⟩

section

variable {headers : Headers}

theorem Tidy.upsert (tidy : headers.Tidy) {name : String}
    {change : Array String → Array String} {fresh : Array String}
    (changed : ∀ entry : HeaderEntry, entry.Sendable →
      HeaderEntry.Sendable { entry with values := change entry.values })
    (added : HeaderEntry.Sendable ⟨name, foldCase name, fresh⟩) :
    Tidy ⟨Headers.upsert name change fresh headers.entries⟩ := by
  refine ⟨forall_mem_upsert changed added tidy.sendable, ?_⟩
  rw [foldedNames_upsert]
  split
  · exact tidy.distinct
  · rename_i unknown
    exact List.nodup_append.mpr ⟨tidy.distinct, by simp,
      fun known member added single same =>
        unknown (List.mem_singleton.mp single ▸ same ▸ member)⟩

theorem Tidy.append (tidy : headers.Tidy) (name value : String) :
    (headers.append name value).Tidy :=
  tidy.upsert (fun _ sendable => sendable.push (storable_sanitize value))
    (HeaderEntry.sendable_singleton (storable_sanitize name) rfl (storable_sanitize value))

theorem Tidy.set (tidy : headers.Tidy) (name value : String) : (headers.set name value).Tidy :=
  tidy.upsert
    (fun _ sendable =>
      HeaderEntry.sendable_singleton sendable.name sendable.folded (storable_sanitize value))
    (HeaderEntry.sendable_singleton (storable_sanitize name) rfl (storable_sanitize value))

theorem Tidy.erase (tidy : headers.Tidy) (name : String) : (headers.erase name).Tidy where
  sendable := fun entry member => tidy.sendable entry (List.mem_of_mem_eraseP member)
  distinct := (List.eraseP_sublist.map _).nodup tidy.distinct

theorem Tidy.foldl_append (name : String) (values : List String) :
    ∀ {headers : Headers}, headers.Tidy →
      (values.foldl (fun held next => held.append name next) headers).Tidy := by
  induction values with
  | nil => exact fun tidy => tidy
  | cons value rest inductionHypothesis =>
      intro headers tidy
      exact inductionHypothesis (tidy.append name value)

theorem Tidy.override (tidy : headers.Tidy) (entry : HeaderEntry) :
    (headers.override entry).Tidy := by
  unfold Headers.override
  split
  · exact tidy
  · exact (tidy.set entry.name _).foldl_append entry.name _

/-- A tidy map stays so whatever is merged into it, for merging stores again. -/
theorem Tidy.merge (tidy : headers.Tidy) (other : Headers) : (headers.merge other).Tidy := by
  obtain ⟨entries⟩ := other
  show Tidy (entries.foldl Headers.override headers)
  induction entries generalizing headers with
  | nil => exact tidy
  | cons entry rest inductionHypothesis => exact inductionHypothesis (tidy.override entry)

end

/-- A map that its own operations have built, from any texts. -/
inductive Built : Headers → Prop where
  | empty : Built .empty
  | append {headers : Headers} (built : Built headers) (name value : String) :
      Built (headers.append name value)
  | set {headers : Headers} (built : Built headers) (name value : String) :
      Built (headers.set name value)
  | erase {headers : Headers} (built : Built headers) (name : String) :
      Built (headers.erase name)
  | merge {headers other : Headers} (built : Built headers) (further : Built other) :
      Built (headers.merge other)

/-- **What is built is tidy.** -/
theorem Built.tidy {headers : Headers} (built : headers.Built) : headers.Tidy := by
  induction built with
  | empty => exact tidy_empty
  | append _ name value tidy => exact tidy.append name value
  | set _ name value tidy => exact tidy.set name value
  | erase _ name tidy => exact tidy.erase name
  | merge _ _ tidy _ => exact tidy.merge _

theorem built_ofFields (fields : List (String × String)) : (ofFields fields).Built := by
  have run : ∀ (rest : List (String × String)) (headers : Headers), headers.Built →
      (rest.foldl (fun held field => held.append field.1 field.2) headers).Built := by
    intro rest
    induction rest with
    | nil => exact fun _ built => built
    | cons field rest inductionHypothesis =>
        exact fun headers built => inductionHypothesis _ (built.append field.1 field.2)
  exact run fields .empty .empty

/-! ## The lines of a name -/

/-- The values on the lines with a name, casing aside. -/
def valuesOf (headers : Headers) (name : String) : List String :=
  (headers.toList.filter fun field => foldCase field.1 = foldCase name).map Prod.snd

section

variable {headers : Headers}

theorem Tidy.storable_of_mem (tidy : headers.Tidy) {field : String × String}
    (member : field ∈ headers.toList) : Storable field.1 ∧ Storable field.2 := by
  unfold toList at member
  obtain ⟨entry, held, inside⟩ := List.mem_flatMap.mp member
  obtain ⟨value, valueHeld, rfl⟩ := List.mem_map.mp inside
  exact ⟨(tidy.sendable entry held).name, (tidy.sendable entry held).values value valueHeld⟩

/-- In a tidy map all lines with a name come from the one entry that is found under it. -/
theorem Tidy.valuesOf_eq (tidy : headers.Tidy) (name : String) :
    headers.valuesOf name = (headers.all? name).getD [] := by
  obtain ⟨entries⟩ := headers
  have distinct := tidy.distinct
  have folded := fun entry member => (tidy.sendable entry member).folded
  unfold valuesOf all? toList
  simp only at distinct folded ⊢
  clear tidy
  induction entries with
  | nil => rfl
  | cons entry rest inductionHypothesis =>
      obtain ⟨absent, further⟩ := List.nodup_cons.mp distinct
      have own := folded entry List.mem_cons_self
      rw [List.flatMap_cons, List.filter_append, List.map_append,
        inductionHypothesis further fun other member =>
          folded other (List.mem_cons_of_mem entry member),
        List.filter_map, List.find?_cons]
      by_cases named : entry.folded = foldCase name
      · have none : rest.find? (isNamed name) = none := by
          rw [List.find?_eq_none]
          intro other member same
          apply absent
          have known : other.folded = foldCase name := beq_iff_eq.mp same
          exact List.mem_map.mpr ⟨other, member, known.trans named.symm⟩
        have here : isNamed name entry = true := beq_iff_eq.mpr named
        rw [none, here]
        simp [Function.comp_def, ← own, named]
      · have here : isNamed name entry = false := beq_eq_false_iff_ne.mpr named
        rw [here]
        simp [Function.comp_def, ← own, named]

theorem Tidy.ne_nil_of_all? (tidy : headers.Tidy) {name : String} {values : List String}
    (found : headers.all? name = some values) : values ≠ [] := by
  unfold all? at found
  obtain ⟨entry, held, rfl⟩ := Option.map_eq_some_iff.mp found
  exact (tidy.sendable entry (List.mem_of_find?_eq_some held)).filled

/-- In a tidy map nothing of a name is left once it has been removed. -/
theorem Tidy.all?_erase (tidy : headers.Tidy) (name query : String) :
    (headers.erase name).all? query =
      if foldCase name = foldCase query then none else headers.all? query := by
  obtain ⟨entries⟩ := headers
  have distinct := tidy.distinct
  unfold all? Headers.erase
  simp only at distinct ⊢
  clear tidy
  induction entries with
  | nil => simp
  | cons entry rest inductionHypothesis =>
      obtain ⟨absent, further⟩ := List.nodup_cons.mp distinct
      by_cases named : entry.folded = foldCase name
      · have none : foldCase name = foldCase query → rest.find? (isNamed query) = none := by
          intro same
          rw [List.find?_eq_none]
          intro other member known
          apply absent
          have folded : other.folded = foldCase query := beq_iff_eq.mp known
          exact List.mem_map.mpr ⟨other, member, (folded.trans same.symm).trans named.symm⟩
        have dropped : isNamed name entry = true := beq_iff_eq.mpr named
        rw [List.eraseP_cons_of_pos dropped]
        by_cases same : foldCase name = foldCase query
        · rw [if_pos same, none same]
          rfl
        · have skipped : isNamed query entry = false := by simp [isNamed, named, same]
          rw [if_neg same, List.find?_cons, skipped]
      · have kept : ¬ isNamed name entry = true := by simp [isNamed, named]
        rw [List.eraseP_cons_of_neg kept, List.find?_cons, List.find?_cons]
        cases here : isNamed query entry with
        | true =>
            have folded : entry.folded = foldCase query := beq_iff_eq.mp here
            rw [if_neg fun same => named (folded.trans same.symm)]
        | false => exact inductionHypothesis further

/-- A name is known to a tidy map if there is a line with it. -/
theorem Tidy.contains_iff (tidy : headers.Tidy) (name : String) :
    headers.contains name = true ↔ headers.valuesOf name ≠ [] := by
  rw [tidy.valuesOf_eq]
  unfold contains
  cases found : headers.all? name with
  | none => simp
  | some values => simp [tidy.ne_nil_of_all? found]

/-- In a tidy map the single value of a name is the value of the only line with it. -/
theorem Tidy.single_eq (tidy : headers.Tidy) (name : String) :
    headers.single name =
      match headers.valuesOf name with
      | [] => .absent
      | [value] => .value value
      | _ => .repeated := by
  rw [tidy.valuesOf_eq]
  unfold single
  cases found : headers.all? name with
  | none => rfl
  | some values =>
      cases values with
      | nil => exact absurd rfl (tidy.ne_nil_of_all? found)
      | cons value rest => cases rest <;> rfl

theorem Tidy.single_eq_repeated_iff (tidy : headers.Tidy) (name : String) :
    headers.single name = .repeated ↔ 1 < (headers.valuesOf name).length := by
  rw [tidy.single_eq]
  split
  · rename_i none
    simp [none]
  · rename_i only
    simp [only]
  · rename_i values filled several
    cases shape : headers.valuesOf name with
    | nil => exact absurd shape filled
    | cons value rest =>
        cases rest with
        | nil => exact absurd shape (several value)
        | cons => simp

theorem Tidy.single_eq_value_iff (tidy : headers.Tidy) (name value : String) :
    headers.single name = .value value ↔ headers.valuesOf name = [value] := by
  rw [tidy.single_eq]
  split
  · rename_i none
    simp [none]
  · rename_i only
    simp [only]
  · rename_i values filled several
    simpa using several value

/-- Only the casing of a name may differ for its values to be the same. -/
theorem valuesOf_congr {name other : String} (same : foldCase name = foldCase other) :
    headers.valuesOf name = headers.valuesOf other := by
  unfold valuesOf
  rw [same]

/-! ## The names of a map -/

theorem mem_foldedNames_foldl_append (folded : String) (fields : List (String × String)) :
    ∀ headers : Headers,
      folded ∈ foldedNames
          (fields.foldl (fun held field => held.append field.1 field.2) headers).entries ↔
        folded ∈ foldedNames headers.entries ∨
          ∃ field ∈ fields, foldCase (sanitize field.1) = folded := by
  induction fields with
  | nil => simp
  | cons field rest inductionHypothesis =>
      intro headers
      have step : folded ∈ foldedNames (headers.append field.1 field.2).entries ↔
          folded ∈ foldedNames headers.entries ∨ foldCase (sanitize field.1) = folded := by
        unfold append
        rw [foldedNames_upsert]
        split
        · rename_i known
          refine ⟨Or.inl, ?_⟩
          rintro (held | rfl)
          · exact held
          · exact known
        · rw [List.mem_append, List.mem_singleton]
          exact or_congr_right eq_comm
      rw [List.foldl_cons, inductionHypothesis, step, or_assoc]
      simp only [List.mem_cons, exists_eq_or_imp]

/-- Each entry of a tidy map has a line. -/
theorem Tidy.exists_line (tidy : headers.Tidy) {folded : String}
    (known : folded ∈ foldedNames headers.entries) :
    ∃ field ∈ headers.toList, foldCase field.1 = folded := by
  obtain ⟨entry, held, rfl⟩ := List.mem_map.mp known
  have sendable := tidy.sendable entry held
  obtain ⟨value, inside⟩ := List.exists_mem_of_ne_nil _ sendable.filled
  refine ⟨(entry.name, value), ?_, sendable.folded.symm⟩
  exact List.mem_flatMap.mpr ⟨entry, held, List.mem_map.mpr ⟨value, inside, rfl⟩⟩

theorem Tidy.foldCase_mem (tidy : headers.Tidy) {field : String × String}
    (member : field ∈ headers.toList) : foldCase field.1 ∈ foldedNames headers.entries := by
  obtain ⟨entry, held, inside⟩ := List.mem_flatMap.mp member
  obtain ⟨value, _, rfl⟩ := List.mem_map.mp inside
  exact List.mem_map.mpr ⟨entry, held, (tidy.sendable entry held).folded⟩

/-- What holds of all names of a map, casing aside, holds of all fields that have been added. -/
theorem forall_names_ofFields {holds : String → Prop}
    (folds : ∀ first second, foldCase first = foldCase second → holds first → holds second)
    (fields : List (String × String)) :
    (∀ field ∈ (ofFields fields).toList, holds field.1) ↔
      ∀ field ∈ fields, holds (sanitize field.1) := by
  have tidy := (built_ofFields fields).tidy
  have names : ∀ folded, folded ∈ foldedNames (ofFields fields).entries ↔
      ∃ field ∈ fields, foldCase (sanitize field.1) = folded := by
    intro folded
    unfold ofFields
    rw [mem_foldedNames_foldl_append]
    exact or_iff_right List.not_mem_nil
  constructor
  · intro each field member
    obtain ⟨line, held, same⟩ := tidy.exists_line ((names _).mpr ⟨field, member, rfl⟩)
    exact folds _ _ same (each line held)
  · intro each line held
    obtain ⟨field, member, same⟩ := (names _).mp (tidy.foldCase_mem held)
    exact folds _ _ same (each field member)

end

end Headers

end HttpService
