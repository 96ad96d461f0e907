import HttpService.Proofs.Headers.Stored
import HttpService.Proofs.Text.Trim
import Mathlib.Data.List.Find

/-!
Contract: a header map as an ordered table of names and values.

Owns:
- tables of names with their values, and what adding, replacing, removing and merging mean for them;
- which entries of a table an operation leaves as they are;
- how a map may have come about from the empty one, by its own operations and with any texts;
- **every such map is the table that has come about in the same way**, and all lookups say so.

Does not own: the lines on which the fields are sent.
-/

namespace HttpService

/-! ## Tables -/

/-- Names in the casing of their first appearance, each with its values. -/
abbrev FieldTable := List (String × List String)

namespace FieldTable

/-- Whether a field has a name, casing aside. -/
def isNamed (name : String) (field : String × List String) : Bool :=
  foldCase field.1 == foldCase name

/-- Whether a field has another name. -/
def isOther (name : String) (field : String × List String) : Bool :=
  !isNamed name field

def knows (table : FieldTable) (name : String) : Bool :=
  table.any (isNamed name)

/-- Changes the values of a name in place, or adds a last field. -/
def put (table : FieldTable) (name : String) (change : List String → List String) : FieldTable :=
  if table.knows name then
    table.map fun field => if isNamed name field then (field.1, change field.2) else field
  else table ++ [(name, change [])]

/-- Adds a value behind those of its name. -/
def append (table : FieldTable) (name value : String) : FieldTable :=
  table.put (sanitize name) (· ++ [sanitize value])

/-- Replaces the values of a name. -/
def set (table : FieldTable) (name value : String) : FieldTable :=
  table.put (sanitize name) fun _ => [sanitize value]

def erase (table : FieldTable) (name : String) : FieldTable :=
  table.filter (isOther name)

/-- A field with the values that a table has for its name, if it has any. -/
def overridden (other : FieldTable) (field : String × List String) : String × List String :=
  (other.find? (isNamed field.1)).elim field fun given => (field.1, given.2)

/-- Each field gets the values that another table has for its name. The further fields of that table
come behind. -/
def merge (table other : FieldTable) : FieldTable :=
  table.map other.overridden ++ other.filter fun given => !table.knows given.1

/-- Each name in its casing, with one of its values. -/
def lines (table : FieldTable) : List (String × String) :=
  table.flatMap fun field => field.2.map fun value => (field.1, value)

/-- No two fields have the same name. -/
def Distinct (table : FieldTable) : Prop :=
  (table.map fun field => foldCase field.1).Nodup

/-! ## What an operation leaves -/

section

variable {table other : FieldTable} {name : String} {change : List String → List String}
  {field : String × List String}

theorem isNamed_iff : isNamed name field = true ↔ foldCase field.1 = foldCase name :=
  beq_iff_eq

theorem isNamed_eq_false_iff : isNamed name field = false ↔ foldCase field.1 ≠ foldCase name :=
  beq_eq_false_iff_ne

theorem Distinct.tail (distinct : Distinct (field :: table)) : table.Distinct :=
  (List.nodup_cons.mp distinct).2

theorem Distinct.apart (distinct : Distinct (field :: table))
    (same : foldCase name = foldCase field.1) : ∀ later ∈ table, isNamed name later = false := by
  intro later member
  rw [isNamed_eq_false_iff, same]
  intro named
  exact (List.nodup_cons.mp distinct).1 (List.mem_map.mpr ⟨later, member, named⟩)

theorem knows_eq_false_iff :
    table.knows name = false ↔ ∀ field ∈ table, isNamed name field = false := by
  unfold knows
  rw [List.any_eq_false]
  simp only [Bool.not_eq_true]

theorem knows_congr {same : String} (equal : foldCase name = foldCase same) :
    table.knows name = table.knows same := by
  unfold knows isNamed
  rw [equal]

theorem put_of_known (known : table.knows name = true) :
    table.put name change =
      table.map fun field => if isNamed name field then (field.1, change field.2) else field :=
  if_pos known

theorem put_of_unknown (unknown : table.knows name = false) :
    table.put name change = table ++ [(name, change [])] :=
  if_neg (Bool.eq_false_iff.mp unknown)

/-- A change in place leaves the names as they are. -/
theorem knows_put_of_known (change : List String → List String) (known : table.knows name = true)
    (query : String) :
    (table.put name change).knows query = table.knows query := by
  have kept : ∀ field, isNamed query (if isNamed name field then (field.1, change field.2) else field) =
      isNamed query field := by
    intro field
    split
    · rfl
    · rfl
  rw [put_of_known known]
  unfold knows
  rw [List.any_map]
  simp only [Function.comp_def, kept]

theorem put_put (table : FieldTable) (name : String) (first second : List String → List String) :
    (table.put name first).put name second = table.put name fun values => second (first values) := by
  cases known : table.knows name with
  | true =>
      have still := (knows_put_of_known first known name).trans known
      rw [put_of_known still, put_of_known known, put_of_known known, List.map_map]
      refine List.map_congr_left fun field _ => ?_
      rw [Function.comp_apply]
      cases named : isNamed name field with
      | true => exact if_pos named
      | false => exact if_neg (Bool.eq_false_iff.mp named)
  | false =>
      have own : isNamed name (name, first []) = true := isNamed_iff.mpr rfl
      have added : knows (table ++ [(name, first [])]) name = true := by
        unfold knows
        rw [List.any_append, List.any_cons, own, Bool.true_or, Bool.or_true]
      rw [put_of_unknown known, put_of_unknown known, put_of_known added, List.map_append,
        List.map_singleton, if_pos own]
      congr 1
      refine Text.map_eq_self fun field member => ?_
      exact if_neg (Bool.eq_false_iff.mp (knows_eq_false_iff.mp known field member))

/-- Values that are added one by one come behind each other. -/
theorem foldl_append_put (name : String) (values : List String) :
    ∀ change : List String → List String,
      values.foldl (fun held next => held.append name next) (table.put (sanitize name) change) =
        table.put (sanitize name) fun held => change held ++ values.map sanitize := by
  induction values with
  | nil => simp
  | cons value rest inductionHypothesis =>
      intro change
      rw [List.foldl_cons, append, put_put, inductionHypothesis]
      simp only [List.map_cons, List.append_assoc, List.singleton_append]

/-- Other names keep their fields and their order. -/
theorem others_put (table : FieldTable) (name : String) (change : List String → List String) :
    (table.put name change).filter (isOther name) = table.filter (isOther name) := by
  cases known : table.knows name with
  | false =>
      have own : isOther name (name, change []) = false := by simp [isOther, isNamed]
      rw [put_of_unknown known, List.filter_append,
        List.filter_cons_of_neg (Bool.eq_false_iff.mp own)]
      exact List.append_nil _
  | true =>
      rw [put_of_known known]
      clear known
      induction table with
      | nil => rfl
      | cons field rest inductionHypothesis =>
          rw [List.map_cons]
          cases named : isNamed name field with
          | true =>
              have dropped : isOther name (field.1, change field.2) = false := by
                simpa [isOther, isNamed] using named
              have gone : isOther name field = false := by simp [isOther, named]
              rw [if_pos rfl, List.filter_cons, List.filter_cons, dropped, gone]
              exact inductionHypothesis
          | false =>
              have kept : isOther name field = true := by simp [isOther, named]
              rw [if_neg (by decide), List.filter_cons, List.filter_cons, kept, if_pos rfl,
                if_pos rfl, inductionHypothesis]

theorem others_erase (table : FieldTable) (name : String) :
    (table.erase name).filter (isOther name) = table.filter (isOther name) := by
  unfold erase
  rw [List.filter_filter]
  simp only [Bool.and_self]

/-- Names that the other table does not know keep their fields and their order. -/
theorem others_merge (table other : FieldTable) :
    (table.merge other).filter (fun field => !other.knows field.1) =
      table.filter fun field => !other.knows field.1 := by
  have further : (other.filter fun given => !table.knows given.1).filter
      (fun field => !other.knows field.1) = [] := by
    rw [List.filter_eq_nil_iff]
    intro given member
    have known : other.knows given.1 = true :=
      List.any_eq_true.mpr ⟨given, (List.mem_filter.mp member).1, isNamed_iff.mpr rfl⟩
    rw [known]
    decide
  unfold merge
  rw [List.filter_append, further, List.append_nil]
  clear further
  induction table with
  | nil => rfl
  | cons field rest inductionHypothesis =>
      rw [List.map_cons, List.filter_cons, List.filter_cons, inductionHypothesis]
      unfold overridden
      cases found : other.find? (isNamed field.1) with
      | none => rfl
      | some given =>
          have known : other.knows field.1 = true :=
            List.any_eq_true.mpr
              ⟨given, List.mem_of_find?_eq_some found, List.find?_some found⟩
          simp [known]

/-! ## Merging field by field -/

theorem put_cons_of_named (named : isNamed name field = true)
    (apart : ∀ later ∈ table, isNamed name later = false) :
    put (field :: table) name change = (field.1, change field.2) :: table := by
  have known : knows (field :: table) name = true := by
    unfold knows
    rw [List.any_cons, named, Bool.true_or]
  rw [put_of_known known, List.map_cons, if_pos named]
  congr 1
  refine Text.map_eq_self fun later member => ?_
  rw [apart later member]
  rfl

theorem put_cons_of_other (other : isNamed name field = false) :
    put (field :: table) name change = field :: table.put name change := by
  have same : knows (field :: table) name = table.knows name := by
    unfold knows
    rw [List.any_cons, other, Bool.false_or]
  cases known : table.knows name with
  | true => rw [put_of_known known, put_of_known (same.trans known), List.map_cons, other]; rfl
  | false => rw [put_of_unknown known, put_of_unknown (same.trans known), List.cons_append]

theorem overridden_cons (given : String × List String) :
    overridden (given :: other) field =
      if isNamed given.1 field then (field.1, given.2) else other.overridden field := by
  unfold overridden
  rw [List.find?_cons]
  by_cases same : foldCase given.1 = foldCase field.1
  · rw [if_pos (isNamed_iff.mpr same.symm), isNamed_iff.mpr same]
    rfl
  · rw [if_neg (by rw [isNamed_iff]; exact Ne.symm same), isNamed_eq_false_iff.mpr same]

theorem overridden_of_unknown (unknown : other.knows field.1 = false) :
    other.overridden field = field := by
  have none : other.find? (isNamed field.1) = none := by
    rw [List.find?_eq_none]
    intro given member
    rw [knows_eq_false_iff.mp unknown given member]
    decide
  unfold overridden
  rw [none]
  rfl

/-- The first field of the other table may be put in before the rest is merged. -/
theorem merge_cons {given : String × List String} (distinct : Distinct (given :: other)) :
    (table.put given.1 fun _ => given.2).merge other = table.merge (given :: other) := by
  have apart := distinct.apart rfl
  unfold merge
  cases known : table.knows given.1 with
  | true =>
      have fields : (table.put given.1 fun _ => given.2).map other.overridden =
          table.map (overridden (given :: other)) := by
        rw [put_of_known known, List.map_map]
        refine List.map_congr_left fun field _ => ?_
        rw [Function.comp_apply, overridden_cons]
        split
        · rename_i named
          apply overridden_of_unknown
          rw [knows_congr (isNamed_iff.mp named)]
          exact knows_eq_false_iff.mpr apart
        · rfl
      rw [fields, List.filter_cons_of_neg (by simp [known])]
      simp only [knows_put_of_known _ known]
  | false =>
      have unnamed := knows_eq_false_iff.mp known
      have kept : overridden other (given.1, given.2) = given :=
        overridden_of_unknown (knows_eq_false_iff.mpr apart)
      have later : other.filter (fun field => !knows (table ++ [(given.1, given.2)]) field.1) =
          other.filter fun field => !table.knows field.1 := by
        refine List.filter_congr fun field member => ?_
        have different : isNamed field.1 given = false := by
          rw [isNamed_eq_false_iff]
          exact Ne.symm (isNamed_eq_false_iff.mp (apart field member))
        unfold knows
        rw [List.any_append, List.any_cons, different]
        simp
      rw [put_of_unknown known, List.map_append, List.map_singleton, kept, later,
        List.filter_cons_of_pos (by simp [known]), List.append_assoc, List.singleton_append]
      congr 1
      refine List.map_congr_left fun field member => ?_
      rw [overridden_cons, unnamed field member]
      rfl

/-- **Merging puts in one field after the other.** -/
theorem foldl_put_eq_merge (distinct : other.Distinct) :
    other.foldl (fun held given => held.put given.1 fun _ => given.2) table =
      table.merge other := by
  induction other generalizing table with
  | nil =>
      unfold merge
      rw [List.filter_nil, List.append_nil]
      exact (List.map_id table).symm
  | cons given rest inductionHypothesis =>
      rw [List.foldl_cons, inductionHypothesis distinct.tail, merge_cons distinct]

end

end FieldTable

/-! ## Maps as tables -/

/-- The name of an entry with its values. -/
def HeaderEntry.field (entry : HeaderEntry) : String × List String :=
  (entry.name, entry.values.toList)

namespace Headers

/-- The names of a map with their values, in its order. -/
def content (headers : Headers) : FieldTable :=
  headers.entries.map HeaderEntry.field

section

variable {headers : Headers} {name : String}

theorem isNamed_field (name : String) {entry : HeaderEntry}
    (own : entry.folded = foldCase entry.name) :
    FieldTable.isNamed name entry.field = isNamed name entry := by
  unfold FieldTable.isNamed isNamed HeaderEntry.field
  rw [own]

theorem Tidy.distinct_content (tidy : headers.Tidy) : headers.content.Distinct := by
  have folded : headers.content.map (fun field => foldCase field.1) =
      foldedNames headers.entries := by
    unfold content foldedNames
    rw [List.map_map]
    exact List.map_congr_left fun entry member => (tidy.sendable entry member).folded.symm
  unfold FieldTable.Distinct
  rw [folded]
  exact tidy.distinct

theorem Tidy.find?_content (tidy : headers.Tidy) (name : String) :
    headers.content.find? (FieldTable.isNamed name) =
      (headers.entries.find? (isNamed name)).map HeaderEntry.field := by
  unfold content
  rw [List.find?_map]
  refine congrArg _ (List.find?_congr fun entry member => ?_)
  exact isNamed_field name (tidy.sendable entry member).folded

/-- The values of a name are looked up in the table. -/
theorem Tidy.all?_eq (tidy : headers.Tidy) (name : String) :
    headers.all? name = (headers.content.find? (FieldTable.isNamed name)).map Prod.snd := by
  rw [tidy.find?_content, Option.map_map]
  rfl

theorem Tidy.contains_eq (tidy : headers.Tidy) (name : String) :
    headers.contains name = headers.content.knows name := by
  unfold contains FieldTable.knows
  rw [tidy.all?_eq, Option.isSome_map, Bool.eq_iff_iff, List.find?_isSome, List.any_eq_true]

/-- Changing an entry changes its field in the table. -/
theorem content_upsert {change : Array String → Array String} {fresh : Array String}
    {listed : List String → List String} (changes : ∀ values, (change values).toList = listed values.toList)
    (opens : fresh.toList = listed []) {entries : List HeaderEntry} (tidy : Tidy ⟨entries⟩) :
    content ⟨upsert name change fresh entries⟩ = FieldTable.put (content ⟨entries⟩) name listed := by
  have distinct := tidy.distinct_content
  have folded := fun entry member => (tidy.sendable entry member).folded
  unfold content at distinct ⊢
  simp only at distinct folded ⊢
  clear tidy
  induction entries with
  | nil => simp [upsert, HeaderEntry.field, FieldTable.put, FieldTable.knows, opens]
  | cons entry rest inductionHypothesis =>
      have own := isNamed_field name (folded entry List.mem_cons_self)
      rw [List.map_cons] at distinct
      rw [List.map_cons, upsert]
      cases named : isNamed name entry with
      | true =>
          rw [named] at own
          have apart := distinct.apart (FieldTable.isNamed_iff.mp own).symm
          rw [if_pos rfl, FieldTable.put_cons_of_named own apart, List.map_cons]
          unfold HeaderEntry.field
          rw [changes]
      | false =>
          rw [named] at own
          rw [if_neg (by decide), FieldTable.put_cons_of_other own, List.map_cons,
            inductionHypothesis distinct.tail fun other member =>
              folded other (List.mem_cons_of_mem entry member)]

theorem Tidy.content_append (tidy : headers.Tidy) (name value : String) :
    (headers.append name value).content = headers.content.append name value :=
  content_upsert (fun _ => Array.toList_push) rfl tidy

theorem Tidy.content_set (tidy : headers.Tidy) (name value : String) :
    (headers.set name value).content = headers.content.set name value :=
  content_upsert (fun _ => rfl) rfl tidy

/-- The first entry of a name is the only one. -/
theorem Tidy.content_erase (tidy : headers.Tidy) (name : String) :
    (headers.erase name).content = headers.content.erase name := by
  obtain ⟨entries⟩ := headers
  have distinct := tidy.distinct_content
  have folded := fun entry member => (tidy.sendable entry member).folded
  unfold content Headers.erase FieldTable.erase at *
  simp only at distinct folded ⊢
  clear tidy
  induction entries with
  | nil => rfl
  | cons entry rest inductionHypothesis =>
      have own := isNamed_field name (folded entry List.mem_cons_self)
      rw [List.map_cons] at distinct
      rw [List.map_cons]
      cases named : isNamed name entry with
      | true =>
          rw [named] at own
          have apart := distinct.apart (FieldTable.isNamed_iff.mp own).symm
          rw [List.eraseP_cons_of_pos named, List.filter_cons_of_neg (by simp [FieldTable.isOther, own]),
            List.filter_eq_self.mpr fun field member => by simp [FieldTable.isOther, apart field member]]
      | false =>
          rw [named] at own
          rw [List.eraseP_cons_of_neg (by simp [named]),
            List.filter_cons_of_pos (by simp [FieldTable.isOther, own]), List.map_cons,
            inductionHypothesis distinct.tail fun other member =>
              folded other (List.mem_cons_of_mem entry member)]

theorem Tidy.content_foldl_append (name : String) (values : List String) :
    ∀ {headers : Headers}, headers.Tidy →
      (values.foldl (fun held next => held.append name next) headers).content =
        values.foldl (fun held next => held.append name next) headers.content := by
  induction values with
  | nil => exact fun _ => rfl
  | cons value rest inductionHypothesis =>
      intro headers tidy
      rw [List.foldl_cons, List.foldl_cons, inductionHypothesis (tidy.append name value),
        tidy.content_append]

/-- What may be stored is stored as it is, so that an entry brings its own values. -/
theorem Tidy.content_override (tidy : headers.Tidy) {entry : HeaderEntry}
    (sendable : entry.Sendable) :
    (headers.override entry).content =
      headers.content.put entry.name fun _ => entry.values.toList := by
  have stored : entry.values.toList.map sanitize = entry.values.toList :=
    Text.map_eq_self fun value member => sanitize_eq_self (sendable.values value member)
  unfold Headers.override
  cases shape : entry.values.toList with
  | nil => exact absurd shape sendable.filled
  | cons value rest =>
      rw [shape] at stored
      simp only
      rw [content_foldl_append entry.name rest (tidy.set entry.name value), tidy.content_set,
        FieldTable.set, FieldTable.foldl_append_put, sanitize_eq_self sendable.name]
      simp only [List.singleton_append, ← List.map_cons, stored]

/-- Merging maps is merging tables. -/
theorem Tidy.content_merge (tidy : headers.Tidy) {other : Headers} (further : other.Tidy) :
    (headers.merge other).content = headers.content.merge other.content := by
  rw [← FieldTable.foldl_put_eq_merge further.distinct_content]
  have sendable := further.sendable
  obtain ⟨entries⟩ := other
  unfold Headers.merge content at *
  simp only at sendable ⊢
  clear further
  induction entries generalizing headers with
  | nil => rfl
  | cons entry rest inductionHypothesis =>
      have own := sendable entry List.mem_cons_self
      rw [List.foldl_cons, inductionHypothesis (tidy.override entry) fun other member =>
        sendable other (List.mem_cons_of_mem entry member)]
      have step := tidy.content_override own
      unfold content at step
      rw [step]
      rfl

end

/-! ## Histories -/

/-- How a map has come about from the empty one. What is merged into it has a history of its own. -/
inductive History where
  | empty
  | append (before : History) (name value : String)
  | set (before : History) (name value : String)
  | erase (before : History) (name : String)
  | merge (before other : History)
deriving Repr

namespace History

/-- The map that a history leads to. -/
def headers : History → Headers
  | empty => .empty
  | append before name value => before.headers.append name value
  | set before name value => before.headers.set name value
  | erase before name => before.headers.erase name
  | merge before other => before.headers.merge other.headers

/-- The table that a history leads to. -/
def table : History → FieldTable
  | empty => []
  | append before name value => before.table.append name value
  | set before name value => before.table.set name value
  | erase before name => before.table.erase name
  | merge before other => before.table.merge other.table

theorem built_headers (history : History) : history.headers.Built := by
  induction history with
  | empty => exact .empty
  | append _ name value built => exact built.append name value
  | set _ name value built => exact built.set name value
  | erase _ name built => exact built.erase name
  | merge _ _ built further => exact built.merge further

/-- The map and the table go through the same history. -/
theorem content_headers (history : History) : history.headers.content = history.table := by
  induction history with
  | empty => rfl
  | append before name value same =>
      rw [headers, before.built_headers.tidy.content_append, same, table]
  | set before name value same =>
      rw [headers, before.built_headers.tidy.content_set, same, table]
  | erase before name same =>
      rw [headers, before.built_headers.tidy.content_erase, same, table]
  | merge before other same further =>
      rw [headers, before.built_headers.tidy.content_merge other.built_headers.tidy, same, further,
        table]

end History

/-- Everything that can be asked of a map is answered as by a table. -/
structure Pictures (headers : Headers) (table : FieldTable) : Prop where
  content : headers.content = table
  size : headers.size = table.length
  isEmpty : headers.isEmpty = table.isEmpty
  lines : headers.toList = table.lines
  contains : ∀ name, headers.contains name = table.knows name
  all : ∀ name, headers.all? name = (table.find? (FieldTable.isNamed name)).map Prod.snd
  first : ∀ name,
    headers.first? name = (table.find? (FieldTable.isNamed name)).bind (·.2.head?)
  last : ∀ name,
    headers.last? name = (table.find? (FieldTable.isNamed name)).bind (·.2.getLast?)
  single : ∀ name, headers.single name =
    match table.find? (FieldTable.isNamed name) with
    | none => .absent
    | some (_, [value]) => .value value
    | some _ => .repeated

/-- An operation on one name leaves the values, the casing and the order of the others. -/
structure Frames (headers : Headers) : Prop where
  append : ∀ name value,
    (headers.append name value).content.filter (FieldTable.isOther (sanitize name)) =
      headers.content.filter (FieldTable.isOther (sanitize name))
  set : ∀ name value,
    (headers.set name value).content.filter (FieldTable.isOther (sanitize name)) =
      headers.content.filter (FieldTable.isOther (sanitize name))
  erase : ∀ name,
    (headers.erase name).content.filter (FieldTable.isOther name) =
      headers.content.filter (FieldTable.isOther name)
  merge : ∀ other : History,
    (headers.merge other.headers).content.filter (fun field => !other.headers.contains field.1) =
      headers.content.filter fun field => !other.headers.contains field.1

section

variable {headers : Headers}

theorem Tidy.pictures (tidy : headers.Tidy) : headers.Pictures headers.content where
  content := rfl
  size := (List.length_map _).symm
  isEmpty := List.isEmpty_map.symm
  lines := by
    unfold content FieldTable.lines toList
    rw [List.flatMap_map]
    rfl
  contains := tidy.contains_eq
  all := tidy.all?_eq
  first := by
    intro name
    unfold first?
    rw [tidy.all?_eq, Option.bind_map]
    rfl
  last := by
    intro name
    unfold last?
    rw [tidy.all?_eq, Option.bind_map]
    rfl
  single := by
    intro name
    unfold single
    rw [tidy.all?_eq]
    cases headers.content.find? (FieldTable.isNamed name) with
    | none => rfl
    | some field =>
        obtain ⟨casing, values⟩ := field
        cases values with
        | nil => rfl
        | cons value rest => cases rest <;> rfl

theorem Tidy.frames (tidy : headers.Tidy) : headers.Frames where
  append := by
    intro name value
    rw [tidy.content_append]
    exact FieldTable.others_put _ _ _
  set := by
    intro name value
    rw [tidy.content_set]
    exact FieldTable.others_put _ _ _
  erase := by
    intro name
    rw [tidy.content_erase]
    exact FieldTable.others_erase _ _
  merge := by
    intro other
    have further := other.built_headers.tidy
    simp only [further.contains_eq]
    rw [tidy.content_merge further]
    exact FieldTable.others_merge _ _

end

/-- **An ordered map whose names ignore case.** Whatever adding, replacing, removing and merging has
led to a map, with any texts: it holds field characters only, at least one value under each name, and
each name once, found under its folded form; it is the table that the same history leads to, and all
lookups, which take names as they are given, are answered from this table; and a further operation
leaves the fields of all other names as they are. -/
theorem History.pictured (history : History) :
    history.headers.Tidy ∧ history.headers.Pictures history.table ∧ history.headers.Frames := by
  have tidy := history.built_headers.tidy
  have pictures := tidy.pictures
  rw [history.content_headers] at pictures
  exact ⟨tidy, pictures, tidy.frames⟩

/-- A name that is removed and added again stands last, in its new casing. -/
example :
    (History.merge
      (.append (.erase (.append (.append .empty "Host" "a") "x\x01" "1") "HOST") "host" "b")
      (.set .empty "X" "2")).table = [("x", ["2"]), ("host", ["b"])] := by
  decide +kernel

end Headers

end HttpService
