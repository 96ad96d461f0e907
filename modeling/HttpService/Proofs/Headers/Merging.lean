import HttpService.Proofs.Headers.Ordered

/-!
Contract: what merging one header map into another leaves of both.

Owns:
- the fields, the names and the lookups of a merged table;
- that merging the same table again changes nothing;
- maps as the tables that they stand for;
- **what merging does to a map, and what it does not do**.

Does not own: which maps are merged.
-/

namespace HttpService

namespace FieldTable

variable {table other : FieldTable} {name : String} {field : String × List String}

/-- The names of a table in its order, each in its casing. -/
def names (table : FieldTable) : List String :=
  table.map Prod.fst

/-! ## Overridden fields -/

theorem fst_overridden (other : FieldTable) (field : String × List String) :
    (other.overridden field).1 = field.1 := by
  unfold overridden
  cases other.find? (isNamed field.1) with
  | none => rfl
  | some given => rfl

theorem isNamed_overridden (other : FieldTable) (name : String) (field : String × List String) :
    isNamed name (other.overridden field) = isNamed name field := by
  unfold isNamed
  rw [fst_overridden]

theorem overridden_overridden (other : FieldTable) (field : String × List String) :
    other.overridden (other.overridden field) = other.overridden field := by
  cases found : other.find? (isNamed field.1) with
  | none => simp [overridden, found]
  | some given => simp [overridden, found]

/-- A field of a table is not overridden by this table. -/
theorem overridden_of_mem (distinct : other.Distinct) (member : field ∈ other) :
    other.overridden field = field := by
  induction other with
  | nil => cases member
  | cons given rest inductionHypothesis =>
      rw [overridden_cons]
      rcases List.mem_cons.mp member with rfl | later
      · rw [if_pos (isNamed_iff.mpr rfl)]
      · have apart := distinct.apart rfl field later
        rw [if_neg (Bool.eq_false_iff.mp apart), inductionHypothesis distinct.tail later]

/-! ## Merged tables -/

theorem names_merge (table other : FieldTable) :
    (table.merge other).names = table.names ++ other.names.filter fun name => !table.knows name := by
  have kept : (table.map other.overridden).map Prod.fst = table.map Prod.fst := by
    rw [List.map_map]
    exact List.map_congr_left fun field _ => fst_overridden other field
  unfold merge names
  rw [List.map_append, kept, List.filter_map]
  rfl

/-- Where a table is silent, its further fields are found. -/
theorem find?_further (silent : table.find? (isNamed name) = none) :
    (other.filter fun given => !table.knows given.1).find? (isNamed name) =
      other.find? (isNamed name) := by
  have unknown : table.knows name = false := by
    rw [knows_eq_false_iff]
    simpa using silent
  rw [List.find?_filter]
  refine List.find?_congr fun given _ => ?_
  cases named : isNamed name given with
  | false => simp
  | true =>
      rw [knows_congr (isNamed_iff.mp named), unknown]
      rfl

/-- A merged table has the values of the other one, if that has the name at all. -/
theorem find?_merge (table other : FieldTable) (name : String) :
    ((table.merge other).find? (isNamed name)).map Prod.snd =
      ((other.find? (isNamed name)).or (table.find? (isNamed name))).map Prod.snd := by
  have same : isNamed name ∘ other.overridden = isNamed name :=
    funext fun field => isNamed_overridden other name field
  unfold merge
  rw [List.find?_append, List.find?_map, same]
  cases known : table.find? (isNamed name) with
  | none =>
      rw [find?_further known, Option.map_none, Option.none_or, Option.or_none]
  | some field =>
      have named : foldCase field.1 = foldCase name := isNamed_iff.mp (List.find?_some known)
      have alike : isNamed field.1 = isNamed name := by
        unfold isNamed
        rw [named]
      rw [Option.map_some, Option.some_or]
      unfold overridden
      rw [alike]
      cases other.find? (isNamed name) with
      | none => rfl
      | some given => rfl

theorem knows_merge_of_mem (member : field ∈ other) : (table.merge other).knows field.1 = true := by
  have own : isNamed field.1 field = true := isNamed_iff.mpr rfl
  unfold merge knows
  rw [List.any_append, List.any_filter, Bool.or_eq_true, List.any_map]
  cases known : table.knows field.1 with
  | true =>
      left
      obtain ⟨held, inside, named⟩ := List.any_eq_true.mp known
      exact List.any_eq_true.mpr ⟨held, inside, (isNamed_overridden other field.1 held).trans named⟩
  | false =>
      right
      refine List.any_eq_true.mpr ⟨field, member, ?_⟩
      unfold knows at known
      rw [known, own]
      rfl

/-- **Merging a table a second time changes nothing.** -/
theorem merge_merge (distinct : other.Distinct) :
    (table.merge other).merge other = table.merge other := by
  have nothing : (other.filter fun given => !(table.merge other).knows given.1) = [] := by
    rw [List.filter_eq_nil_iff]
    intro given member
    rw [knows_merge_of_mem member]
    decide
  have settled : (table.merge other).map other.overridden = table.merge other := by
    refine Text.map_eq_self fun field member => ?_
    rcases List.mem_append.mp member with held | added
    · obtain ⟨before, _, rfl⟩ := List.mem_map.mp held
      exact overridden_overridden other before
    · exact overridden_of_mem distinct (List.mem_filter.mp added).1
  calc (table.merge other).merge other
      = (table.merge other).map other.overridden ++
          other.filter fun given => !(table.merge other).knows given.1 := rfl
    _ = table.merge other := by rw [settled, nothing, List.append_nil]

end FieldTable

/-! ## Merged maps -/

namespace Headers

/-- The names of a map in its order, each in its casing. -/
def names (headers : Headers) : List String :=
  headers.entries.map HeaderEntry.name

theorem names_content (headers : Headers) : headers.content.names = headers.names := by
  unfold content FieldTable.names names
  rw [List.map_map]
  rfl

/-- The map that stands for a table. -/
def ofContent (table : FieldTable) : Headers :=
  ⟨table.map fun field => ⟨field.1, foldCase field.1, field.2.toArray⟩⟩

section

variable {headers other : Headers}

theorem Tidy.ofContent_content (tidy : headers.Tidy) : ofContent headers.content = headers := by
  have entries : (headers.content.map fun field =>
      (⟨field.1, foldCase field.1, field.2.toArray⟩ : HeaderEntry)) = headers.entries := by
    unfold content
    rw [List.map_map]
    refine Text.map_eq_self fun entry member => ?_
    have folded := (tidy.sendable entry member).folded
    unfold HeaderEntry.field
    simp only [Function.comp_apply, ← folded]
  unfold ofContent
  rw [entries]

/-- Tidy maps with the same names and values are the same. -/
theorem Tidy.ext (tidy : headers.Tidy) (further : other.Tidy)
    (same : headers.content = other.content) : headers = other := by
  rw [← tidy.ofContent_content, same, further.ofContent_content]

theorem Tidy.all?_merge (tidy : headers.Tidy) (further : other.Tidy) (name : String) :
    (headers.merge other).all? name =
      if other.contains name then other.all? name else headers.all? name := by
  rw [(tidy.merge other).all?_eq, tidy.content_merge further, FieldTable.find?_merge]
  unfold contains
  rw [further.all?_eq, tidy.all?_eq]
  cases other.content.find? (FieldTable.isNamed name) with
  | none => rfl
  | some given => rfl

theorem Tidy.names_merge (tidy : headers.Tidy) (further : other.Tidy) :
    (headers.merge other).names =
      headers.names ++ other.names.filter fun name => !headers.contains name := by
  have known : headers.contains = headers.content.knows := funext tidy.contains_eq
  rw [← names_content, tidy.content_merge further, FieldTable.names_merge, names_content,
    names_content, known]

theorem Tidy.merge_merge (tidy : headers.Tidy) (further : other.Tidy) :
    (headers.merge other).merge other = headers.merge other := by
  have merged := tidy.merge other
  apply (merged.merge other).ext merged
  rw [merged.content_merge further, tidy.content_merge further,
    FieldTable.merge_merge further.distinct_content]

end

/-- **Merging overrides name by name, and does nothing else.** Whatever has led to two maps: after
one has been merged into the other, a name that it has, in whichever casing, has its values, and any
other name has the values that it had before. The names of the map stay in front, in their order and
casing; behind them come those that only the other map had, in its order and casing. And merging it
once more changes nothing. -/
theorem merge_overrides (left right : History) :
    (∀ name, (left.headers.merge right.headers).all? name =
      if right.headers.contains name then right.headers.all? name else left.headers.all? name) ∧
      (left.headers.merge right.headers).names =
        left.headers.names ++
          right.headers.names.filter (fun name => !left.headers.contains name) ∧
      (left.headers.merge right.headers).merge right.headers =
        left.headers.merge right.headers := by
  have tidy := left.built_headers.tidy
  have further := right.built_headers.tidy
  exact ⟨tidy.all?_merge further, tidy.names_merge further, tidy.merge_merge further⟩

end Headers

end HttpService
