import HttpService.Text.Blank
import HttpService.Text.Split

/-!
Contract: cuts and changes that leave a text as it is.

Owns: changes of no item, trimming a text with no white space at its ends, the cut at a separator
that does not occur earlier and what it leaves, what pieces hold, pieces that are joined, and pieces
that grow at their end.

Does not own: what is cut where.
-/

namespace HttpService.Text

theorem map_eq_self {α : Type} {change : α → α} {items : List α}
    (kept : ∀ item ∈ items, change item = item) : items.map change = items :=
  (List.map_congr_left kept).trans (List.map_id' items)

theorem dropWhile_eq_self {α : Type} {drop : α → Bool} {items : List α}
    (kept : ∀ item, items.head? = some item → drop item = false) :
    items.dropWhile drop = items := by
  cases items with
  | nil => rfl
  | cons head tail => rw [List.dropWhile_cons, kept head rfl, if_neg (by decide)]

theorem trimEndWhile_eq_self {α : Type} {drop : α → Bool} {items : List α}
    (kept : ∀ item, items.getLast? = some item → drop item = false) :
    trimEndWhile drop items = items := by
  unfold trimEndWhile
  rw [dropWhile_eq_self, List.reverse_reverse]
  intro item last
  rw [List.head?_reverse] at last
  exact kept item last

theorem trimWhile_eq_self {α : Type} {drop : α → Bool} {items : List α}
    (first : ∀ item, items.head? = some item → drop item = false)
    (last : ∀ item, items.getLast? = some item → drop item = false) :
    trimWhile drop items = items := by
  unfold trimWhile
  rw [dropWhile_eq_self first, trimEndWhile_eq_self last]

theorem trim_eq_self {chars : List Char}
    (first : ∀ c, chars.head? = some c → isBlank c = false)
    (last : ∀ c, chars.getLast? = some c → isBlank c = false) : trim chars = chars :=
  trimWhile_eq_self first last

theorem trim_cons_of_blank {c : Char} (blank : isBlank c = true) (chars : List Char) :
    trim (c :: chars) = trim chars := by
  unfold trim trimWhile
  rw [List.dropWhile_cons, if_pos blank]

theorem bne_of_not_mem {α : Type} [BEq α] [LawfulBEq α] {separator : α} {items : List α}
    (absent : separator ∉ items) : ∀ item ∈ items, (item != separator) = true := by
  intro item member
  rw [bne_iff_ne]
  rintro rfl
  exact absent member

theorem cut?_append {α : Type} [BEq α] [LawfulBEq α] {separator : α} {front : List α}
    (absent : separator ∉ front) (back : List α) :
    cut? separator (front ++ separator :: back) = some (front, back) := by
  have passed := bne_of_not_mem absent
  unfold cut?
  rw [List.dropWhile_append_of_pos passed, List.takeWhile_append_of_pos passed]
  simp

theorem before_eq_self {α : Type} [BEq α] [LawfulBEq α] {separator : α} {items : List α}
    (absent : separator ∉ items) : before separator items = items := by
  unfold before
  rw [← List.append_nil items, List.takeWhile_append_of_pos (bne_of_not_mem absent),
    List.takeWhile_nil]

theorem eq_append_of_cut? {α : Type} [BEq α] [LawfulBEq α] {separator : α}
    {items front back : List α} (cut : cut? separator items = some (front, back)) :
    items = front ++ separator :: back := by
  unfold cut? at cut
  split at cut
  · cases cut
  · rename_i head tail dropped
    cases cut
    have stopped := List.head?_dropWhile_not (· != separator) items
    rw [dropped] at stopped
    have same : head = separator := by simpa using stopped
    have shape := List.takeWhile_append_dropWhile (p := (· != separator)) (l := items)
    rw [dropped, same] at shape
    exact shape.symm

theorem not_mem_of_cut? {α : Type} [BEq α] [LawfulBEq α] {separator : α}
    {items front back : List α} (cut : cut? separator items = some (front, back)) :
    separator ∉ front := by
  unfold cut? at cut
  split at cut
  · cases cut
  · cases cut
    intro member
    have passed := List.all_eq_true.mp List.all_takeWhile separator member
    simp at passed

theorem not_mem_before {α : Type} [BEq α] [LawfulBEq α] (separator : α) (items : List α) :
    separator ∉ before separator items := by
  intro member
  have passed := List.all_eq_true.mp List.all_takeWhile separator member
  simp at passed

theorem before_of_cut? {α : Type} [BEq α] [LawfulBEq α] {separator : α}
    {items front back : List α} (cut : cut? separator items = some (front, back)) :
    before separator items = front := by
  have passed := bne_of_not_mem (not_mem_of_cut? cut)
  unfold before
  rw [eq_append_of_cut? cut, List.takeWhile_append_of_pos passed]
  simp

theorem cut?_eq_none_iff {α : Type} [BEq α] [LawfulBEq α] {separator : α} {items : List α} :
    cut? separator items = none ↔ separator ∉ items := by
  constructor
  · intro uncut member
    obtain ⟨front, back, rfl, absent⟩ := List.eq_append_cons_of_mem member
    rw [cut?_append absent] at uncut
    cases uncut
  · intro absent
    cases cut : cut? separator items with
    | none => rfl
    | some parts =>
        rw [eq_append_of_cut? cut] at absent
        simp at absent

theorem dropLead_sublist {α : Type} [BEq α] (separator : α) (items : List α) :
    (dropLead separator items).Sublist items := by
  cases items with
  | nil => exact .slnil
  | cons head tail =>
      rw [dropLead]
      split
      · exact List.sublist_cons_self head tail
      · exact .refl _

theorem cut?_sublist {α : Type} [BEq α] {separator : α} {items front back : List α}
    (cut : cut? separator items = some (front, back)) :
    front.Sublist items ∧ back.Sublist items := by
  unfold cut? at cut
  split at cut
  · cases cut
  · rename_i head tail dropped
    cases cut
    have behind := List.dropWhile_sublist (l := items) (· != separator)
    rw [dropped] at behind
    exact ⟨List.takeWhile_sublist _, (List.sublist_cons_self _ _).trans behind⟩

theorem trimWhile_sublist {α : Type} (drop : α → Bool) (items : List α) :
    (trimWhile drop items).Sublist items := by
  have ended := (List.dropWhile_sublist (l := (items.dropWhile drop).reverse) drop).reverse
  rw [List.reverse_reverse] at ended
  exact ended.trans (List.dropWhile_sublist drop)

theorem trim_sublist (chars : List Char) : (trim chars).Sublist chars :=
  trimWhile_sublist isBlank chars

/-- The pieces of a text hold nothing that is not in the text. -/
theorem mem_of_mem_splitOn {α : Type} [BEq α] [LawfulBEq α] {separator item : α}
    {piece items : List α} (cut : piece ∈ items.splitOn separator) (inside : item ∈ piece) :
    item ∈ items := by
  induction items generalizing piece with
  | nil =>
      rw [List.splitOn_nil, List.mem_singleton] at cut
      rw [cut] at inside
      exact inside
  | cons head rest inductionHypothesis =>
      rw [List.splitOn_cons_eq_if_modifyHead] at cut
      split at cut
      · rcases List.mem_cons.mp cut with rfl | later
        · cases inside
        · exact List.mem_cons_of_mem head (inductionHypothesis later inside)
      · cases pieces : rest.splitOn separator with
        | nil => exact absurd pieces (List.splitOn_ne_nil _ _)
        | cons first further =>
            rw [pieces, List.modifyHead_cons, List.mem_cons] at cut
            rcases cut with rfl | later
            · refine (List.mem_cons.mp inside).elim (fun same => same ▸ List.mem_cons_self) ?_
              intro behind
              exact List.mem_cons_of_mem head
                (inductionHypothesis (pieces ▸ List.mem_cons_self) behind)
            · exact List.mem_cons_of_mem head
                (inductionHypothesis (pieces ▸ List.mem_cons_of_mem first later) inside)

/-- The pieces of a text hold no separator. -/
theorem not_mem_of_mem_splitOn {α : Type} [BEq α] [LawfulBEq α] {separator : α}
    {piece items : List α} (cut : piece ∈ items.splitOn separator) : separator ∉ piece := by
  induction items generalizing piece with
  | nil =>
      rw [List.splitOn_nil, List.mem_singleton] at cut
      rw [cut]
      exact List.not_mem_nil
  | cons head rest inductionHypothesis =>
      rw [List.splitOn_cons_eq_if_modifyHead] at cut
      split at cut
      · rcases List.mem_cons.mp cut with rfl | later
        · exact List.not_mem_nil
        · exact inductionHypothesis later
      · rename_i different
        cases pieces : rest.splitOn separator with
        | nil => exact absurd pieces (List.splitOn_ne_nil _ _)
        | cons first further =>
            rw [pieces, List.modifyHead_cons, List.mem_cons] at cut
            rcases cut with rfl | later
            · rw [List.mem_cons, not_or]
              refine ⟨fun same => different (by simpa using same.symm), ?_⟩
              exact inductionHypothesis (pieces ▸ List.mem_cons_self)
            · exact inductionHypothesis (pieces ▸ List.mem_cons_of_mem first later)

theorem mem_intercalate {α : Type} {item separator : α} {pieces : List (List α)}
    (member : item ∈ [separator].intercalate pieces) :
    item = separator ∨ ∃ piece ∈ pieces, item ∈ piece := by
  induction pieces with
  | nil => simp at member
  | cons piece rest inductionHypothesis =>
      cases rest with
      | nil => exact .inr ⟨piece, List.mem_cons_self, by simpa using member⟩
      | cons next rest =>
          rw [List.intercalate_cons_cons, List.mem_append, List.mem_append,
            List.mem_singleton] at member
          rcases member with (inside | mark) | later
          · exact .inr ⟨piece, List.mem_cons_self, inside⟩
          · exact .inl mark
          · refine (inductionHypothesis later).imp_right ?_
            rintro ⟨other, further, inside⟩
            exact ⟨other, List.mem_cons_of_mem piece further, inside⟩

/-- A piece behind others is joined to them by one separator. -/
theorem intercalate_concat {α : Type} {separator : α} {front : List (List α)} (filled : front ≠ [])
    (last : List α) :
    [separator].intercalate (front ++ [last]) =
      [separator].intercalate front ++ separator :: last := by
  induction front with
  | nil => exact absurd rfl filled
  | cons piece rest inductionHypothesis =>
      cases rest with
      | nil => simp
      | cons next rest =>
          have further := inductionHypothesis (List.cons_ne_nil next rest)
          rw [List.cons_append] at further ⊢
          rw [List.cons_append, List.intercalate_cons_cons, List.intercalate_cons_cons, further,
            List.append_assoc _ (List.intercalate _ _)]

theorem splitOn_concat {α : Type} [BEq α] [LawfulBEq α] {separator item : α}
    (different : item ≠ separator) (items : List α) :
    ∃ front last, items.splitOn separator = front ++ [last] ∧
      (items ++ [item]).splitOn separator = front ++ [last ++ [item]] := by
  induction items with
  | nil =>
      refine ⟨[], [], rfl, ?_⟩
      exact List.splitOn_eq_singleton (by simpa using Ne.symm different)
  | cons head rest inductionHypothesis =>
      obtain ⟨front, last, pieces, grown⟩ := inductionHypothesis
      rw [List.cons_append, List.splitOn_cons_eq_if_modifyHead, List.splitOn_cons_eq_if_modifyHead,
        pieces, grown]
      by_cases cut : head = separator
      · rw [if_pos (by simpa using cut), if_pos (by simpa using cut)]
        exact ⟨[] :: front, last, rfl, rfl⟩
      · rw [if_neg (by simpa using cut), if_neg (by simpa using cut)]
        cases front with
        | nil => exact ⟨[], head :: last, rfl, rfl⟩
        | cons piece front => exact ⟨(head :: piece) :: front, last, rfl, rfl⟩

theorem trimEndWhile_length_le {α : Type} (drop : α → Bool) (items : List α) :
    (trimEndWhile drop items).length ≤ items.length := by
  unfold trimEndWhile
  have dropped := (List.dropWhile_sublist (l := items.reverse) drop).length_le
  rw [List.length_reverse] at dropped ⊢
  exact dropped

theorem trimEndWhile_concat {α : Type} {drop : α → Bool} {item : α} (dropped : drop item = true)
    (items : List α) : trimEndWhile drop (items ++ [item]) = trimEndWhile drop items := by
  unfold trimEndWhile
  rw [List.reverse_append, List.reverse_singleton, List.singleton_append, List.dropWhile_cons,
    if_pos dropped]

/-- Items that end in one that stays are not reached. -/
theorem trimEndWhile_append {α : Type} {drop : α → Bool} {front : List α} {last : α}
    (final : front.getLast? = some last) (kept : drop last = false) (back : List α) :
    trimEndWhile drop (front ++ back) = front ++ trimEndWhile drop back := by
  obtain ⟨start, rfl⟩ := List.getLast?_eq_some_iff.mp final
  unfold trimEndWhile
  rw [List.reverse_append, List.dropWhile_append]
  split
  · rename_i dropped
    rw [List.isEmpty_iff.mp dropped, List.reverse_append, List.reverse_singleton,
      List.singleton_append, List.dropWhile_cons, if_neg (by rw [kept]; decide)]
    simp
  · rw [List.reverse_append, List.reverse_reverse]

theorem trimEndWhile_prefix {α : Type} (drop : α → Bool) (items : List α) :
    trimEndWhile drop items <+: items := by
  unfold trimEndWhile
  have behind := List.reverse_prefix.mpr (List.dropWhile_suffix (l := items.reverse) drop)
  rwa [List.reverse_reverse] at behind

/-- What trimming leaves has nothing to drop at its ends. -/
theorem ends_trimWhile {α : Type} (drop : α → Bool) (items : List α) :
    (∀ item, (trimWhile drop items).head? = some item → drop item = false) ∧
      ∀ item, (trimWhile drop items).getLast? = some item → drop item = false := by
  constructor
  · intro item first
    obtain ⟨rest, shape⟩ := List.head?_eq_some_iff.mp first
    obtain ⟨trail, whole⟩ : trimWhile drop items <+: items.dropWhile drop :=
      trimEndWhile_prefix _ _
    have stopped := List.head?_dropWhile_not drop items
    rw [← whole, shape] at stopped
    simpa using stopped
  · intro item last
    have stopped := List.head?_dropWhile_not drop (items.dropWhile drop).reverse
    unfold trimWhile trimEndWhile at last
    rw [List.getLast?_reverse] at last
    rw [last] at stopped
    simpa using stopped

theorem trim_trim (chars : List Char) : trim (trim chars) = trim chars :=
  trim_eq_self (ends_trimWhile isBlank chars).1 (ends_trimWhile isBlank chars).2

/-- A text that trimming leaves as it is has no white space at its ends. -/
theorem ends_of_trim_eq_self {chars : List Char} (same : trim chars = chars) :
    (∀ c, chars.head? = some c → isBlank c = false) ∧
      ∀ c, chars.getLast? = some c → isBlank c = false := by
  have opens : ∀ c, chars.head? = some c → isBlank c = false := by
    intro c first
    rw [← Bool.not_eq_true]
    intro blank
    obtain ⟨rest, rfl⟩ := List.head?_eq_some_iff.mp first
    have shorter := (trim_sublist rest).length_le
    rw [← trim_cons_of_blank blank rest, same, List.length_cons] at shorter
    omega
  refine ⟨opens, fun c last => ?_⟩
  rw [← Bool.not_eq_true]
  intro blank
  obtain ⟨front, rfl⟩ := List.getLast?_eq_some_iff.mp last
  have shorter := trimEndWhile_length_le isBlank front
  rw [← trimEndWhile_concat blank front, ← dropWhile_eq_self opens] at shorter
  have kept : (trimEndWhile isBlank ((front ++ [c]).dropWhile isBlank)).length =
      front.length + 1 := by
    have lengths := congrArg List.length same
    rw [List.length_append] at lengths
    exact lengths
  omega

end HttpService.Text
