import Mathlib.Data.List.Perm.Subperm
import HttpService.Proofs.Routing.Lookup

/-!
Contract: a trie is a map from structures to their latest insertions, in order of the first ones.

Owns:
- the entries at a node and below it, and what storing changes of them and of their number;
- the entries of a trie as those of its registrations, in some order;
- the structures of a sequence of insertions, and the latest insertion of a structure;
- **the listing, the size, the membership test and the answers of insertions** in these terms.

Does not own: searches.
-/

namespace HttpService.Routing

variable {α : Type}

/-! ## Entries below a node -/

namespace Node

theorem entries_eq (here : Node α) :
    here.entries = here.entry.toList ++ entriesBelow here.children := by
  cases here
  rfl

theorem mem_entriesBelow {entry : Entry α} {child : Node α} :
    ∀ {children : List (Node α)}, child ∈ children → entry ∈ child.entries →
      entry ∈ entriesBelow children
  | head :: rest, member, found => by
      rw [entriesBelow, List.mem_append]
      rcases List.mem_cons.mp member with rfl | later
      · exact .inl found
      · exact .inr (mem_entriesBelow later found)

theorem mem_entries_of_stored? {entry : Entry α} (keys : List Key) {here : Node α}
    (found : stored? keys here = some entry) : entry ∈ here.entries := by
  rw [entries_eq, List.mem_append]
  induction keys generalizing here with
  | nil => exact .inl (Option.mem_toList.mpr found)
  | cons next keys inductionHypothesis =>
      rw [stored?_cons, Option.bind_eq_some_iff] at found
      obtain ⟨child, childFound, found⟩ := found
      have member : child ∈ here.children := List.mem_of_find?_eq_some childFound
      refine .inr (mem_entriesBelow member ?_)
      rw [entries_eq, List.mem_append]
      exact inductionHypothesis found

/-- A missing child stores no more than a bare one. -/
theorem stored?_cons_getD (next : Key) (keys : List Key) (here : Node α) :
    stored? (next :: keys) here = stored? keys ((child? next here.children).getD (bare next)) := by
  rw [stored?_cons]
  cases child? next here.children with
  | none => exact (stored?_bare next keys).symm
  | some child => rfl

/-- A change of one child leaves the entries below the others. -/
theorem perm_entriesBelow_updateChild (change : Node α → Node α) (next : Key)
    (children : List (Node α)) :
    ∃ others, (entriesBelow children).Perm
        (((child? next children).getD (bare next)).entries ++ others) ∧
      (entriesBelow (updateChild next change children)).Perm
        ((change ((child? next children).getD (bare next))).entries ++ others) := by
  induction children with
  | nil => exact ⟨[], .refl _, .refl _⟩
  | cons child rest inductionHypothesis =>
      unfold child? at inductionHypothesis ⊢
      by_cases here : child.key = next
      · refine ⟨entriesBelow rest, ?_⟩
        simp only [updateChild, here, if_true, entriesBelow, List.find?_cons, decide_true,
          Option.getD_some]
        exact ⟨.refl _, .refl _⟩
      · obtain ⟨others, before, after⟩ := inductionHypothesis
        refine ⟨child.entries ++ others, ?_⟩
        simp only [updateChild, here, if_false, entriesBelow, List.find?_cons, decide_false]
        constructor
        · exact (before.append_left child.entries).trans (List.perm_append_comm_assoc _ _ _)
        · exact (after.append_left child.entries).trans (List.perm_append_comm_assoc _ _ _)

/-- **Storing an entry leaves all others**, but for the one at the same place. -/
theorem perm_entries_store (entry : Entry α) (keys : List Key) (here : Node α) :
    ∃ others, here.entries.Perm ((stored? keys here).toList ++ others) ∧
      (store entry keys here).entries.Perm (entry :: others) := by
  induction keys generalizing here with
  | nil =>
      obtain ⟨key, held, children⟩ := here
      exact ⟨entriesBelow children, .refl _, .refl _⟩
  | cons next keys inductionHypothesis =>
      obtain ⟨key, held, children⟩ := here
      obtain ⟨beside, before, after⟩ := perm_entriesBelow_updateChild (store entry keys) next children
      obtain ⟨below, old, new⟩ := inductionHypothesis ((child? next children).getD (bare next))
      refine ⟨held.toList ++ (below ++ beside), ?_, ?_⟩
      · rw [stored?_cons_getD]
        show (held.toList ++ entriesBelow children).Perm _
        apply List.Perm.trans (.append_left _ (before.trans (old.append_right beside)))
        rw [List.append_assoc]
        exact List.perm_append_comm_assoc _ _ _
      · show (held.toList ++ entriesBelow (updateChild next (store entry keys) children)).Perm _
        apply List.Perm.trans (.append_left _ (after.trans (new.append_right beside)))
        exact List.perm_append_comm_assoc held.toList [entry] (below ++ beside)

/-- Storing adds an entry where none is stored, and replaces one otherwise. -/
theorem length_entries_store (entry : Entry α) (keys : List Key) (here : Node α) :
    (store entry keys here).entries.length =
      here.entries.length + if (stored? keys here).isSome = true then 0 else 1 := by
  obtain ⟨others, before, after⟩ := perm_entries_store entry keys here
  rw [before.length_eq, after.length_eq, List.length_append, List.length_cons]
  cases stored? keys here with
  | none =>
      show others.length + 1 = 0 + others.length + 1
      omega
  | some held =>
      show others.length + 1 = 1 + others.length + 0
      omega

end Node

/-! ## Insertions one by one -/

/-- The structures that are inserted, each where it comes first. Names of captures are no part of
a structure. -/
def structures (insertions : List (Pattern × α)) : List (List Key) :=
  (insertions.map (·.1.keys)).eraseDups

/-- The last insertion of a structure. -/
def latest? (insertions : List (Pattern × α)) (keys : List Key) : Option (Pattern × α) :=
  insertions.reverse.find? (·.1.keys = keys)

theorem mem_structures_iff {insertions : List (Pattern × α)} {keys : List Key} :
    keys ∈ structures insertions ↔ ∃ inserted ∈ insertions, inserted.1.keys = keys := by
  unfold structures
  rw [List.mem_eraseDups, List.mem_map]

theorem structures_concat (insertions : List (Pattern × α)) (pattern : Pattern) (value : α) :
    structures (insertions ++ [(pattern, value)]) =
      if pattern.keys ∈ structures insertions then structures insertions
      else structures insertions ++ [pattern.keys] := by
  have known : pattern.keys ∈ structures insertions ↔
      pattern.keys ∈ insertions.map (·.1.keys) := List.mem_eraseDups
  unfold structures at known ⊢
  rw [List.map_append, List.map_singleton, List.eraseDups_append]
  by_cases old : pattern.keys ∈ insertions.map (·.1.keys)
  · rw [if_pos (known.mpr old)]
    simp [List.removeAll, old]
  · rw [if_neg fun member => old (known.mp member)]
    simp [List.removeAll, old, List.eraseDups_cons]

theorem latest?_concat (insertions : List (Pattern × α)) (pattern : Pattern) (value : α)
    (keys : List Key) :
    latest? (insertions ++ [(pattern, value)]) keys =
      if keys = pattern.keys then some (pattern, value) else latest? insertions keys := by
  unfold latest?
  rw [List.reverse_append, List.reverse_singleton, List.singleton_append, List.find?_cons]
  by_cases same : keys = pattern.keys
  · simp [same]
  · simp [same, Ne.symm same]

theorem isSome_latest?_iff {insertions : List (Pattern × α)} {keys : List Key} :
    (latest? insertions keys).isSome = true ↔ ∃ inserted ∈ insertions, inserted.1.keys = keys := by
  simp [latest?, List.find?_isSome]

namespace Registration

theorem ofInsertions_concat (insertions : List (Pattern × α)) (pattern : Pattern)
    (value : α) :
    Registration.ofInsertions (insertions ++ [(pattern, value)]) =
      Registration.register (Registration.ofInsertions insertions) pattern value :=
  List.foldl_append

/-- The registrations stand in the order in which their structures come. -/
theorem map_keys_ofInsertions (insertions : List (Pattern × α)) :
    (Registration.ofInsertions insertions).map (·.pattern.keys) = structures insertions := by
  induction insertions using List.reverseRecOn with
  | nil => rfl
  | append_singleton earlier inserted inductionHypothesis =>
      obtain ⟨pattern, value⟩ := inserted
      rw [ofInsertions_concat, structures_concat, ← inductionHypothesis]
      unfold register
      have known : (Registration.ofInsertions earlier).any (·.pattern.keys = pattern.keys) = true ↔
          pattern.keys ∈ (Registration.ofInsertions earlier).map (·.pattern.keys) := by
        simp
      by_cases old : pattern.keys ∈ (Registration.ofInsertions earlier).map (·.pattern.keys)
      · rw [if_pos old, if_pos (known.mpr old), List.map_map]
        exact List.map_congr_left fun held _ => renew_keys pattern value held
      · rw [if_neg old, if_neg fun any => old (known.mp any), List.map_append]
        rfl

/-- The registration of a structure shows its latest insertion. -/
theorem withKeys?_ofInsertions (insertions : List (Pattern × α)) (keys : List Key) :
    (withKeys? (Registration.ofInsertions insertions) keys).map
      (fun held => (held.pattern, held.value)) = latest? insertions keys := by
  induction insertions using List.reverseRecOn with
  | nil => rfl
  | append_singleton earlier inserted inductionHypothesis =>
      obtain ⟨pattern, value⟩ := inserted
      rw [ofInsertions_concat, withKeys?_register, latest?_concat, ← inductionHypothesis]
      split
      · rfl
      · rfl

theorem map_ofInsertions_eq_filterMap (insertions : List (Pattern × α)) :
    (Registration.ofInsertions insertions).map (fun held => (held.pattern, held.value)) =
      (structures insertions).filterMap (latest? insertions) := by
  have separate := separate_ofInsertions insertions
  have shown : ∀ held ∈ Registration.ofInsertions insertions,
      latest? insertions held.pattern.keys = some (held.pattern, held.value) := by
    intro held member
    rw [← withKeys?_ofInsertions, separate.withKeys?_eq_some_iff.mpr ⟨member, rfl⟩]
    rfl
  rw [← map_keys_ofInsertions, List.filterMap_map, ← List.filterMap_eq_map]
  exact List.filterMap_congr fun held member => (shown held member).symm

end Registration

namespace Trie

open Registration (entry)

theorem ofInsertions_concat (insertions : List (Pattern × α)) (pattern : Pattern) (value : α) :
    ofInsertions (insertions ++ [(pattern, value)]) =
      ((ofInsertions insertions).insert pattern value).2 :=
  List.foldl_append

/-- The size counts the entries. -/
theorem length_entries_ofInsertions (insertions : List (Pattern × α)) :
    (ofInsertions insertions).root.entries.length = (ofInsertions insertions).size := by
  induction insertions using List.reverseRecOn with
  | nil => rfl
  | append_singleton earlier inserted inductionHypothesis =>
      obtain ⟨pattern, value⟩ := inserted
      rw [ofInsertions_concat]
      unfold Trie.insert
      have found : Trie.entry? (ofInsertions earlier) pattern =
        (ofInsertions earlier).root.stored? pattern.keys := rfl
      cases known : Trie.entry? (ofInsertions earlier) pattern with
      | none =>
          rw [known] at found
          simp only [Node.length_entries_store, ← found, inductionHypothesis]
          rfl
      | some held =>
          rw [known] at found
          simp only [Node.length_entries_store, ← found, inductionHypothesis]
          rfl

/-- The entries of the registrations stand in the order of their places. -/
theorem map_place_entries (insertions : List (Pattern × α)) :
    ((Registration.ofInsertions insertions).map entry).map Entry.place =
      List.range (Registration.ofInsertions insertions).length := by
  rw [List.map_map]
  exact (Registration.separate_ofInsertions insertions).places

/-- **The entries of a trie are those of its registrations.** -/
theorem entries_perm (insertions : List (Pattern × α)) :
    ((Registration.ofInsertions insertions).map entry).Perm
      (ofInsertions insertions).root.entries := by
  have holds := holds_ofInsertions insertions
  have separate := Registration.separate_ofInsertions insertions
  have distinct : ((Registration.ofInsertions insertions).map entry).Nodup := by
    apply List.Nodup.of_map Entry.place
    rw [map_place_entries]
    exact List.nodup_range
  have included : (Registration.ofInsertions insertions).map entry ⊆
      (ofInsertions insertions).root.entries := by
    intro found member
    obtain ⟨registration, held, rfl⟩ := List.mem_map.mp member
    apply Node.mem_entries_of_stored? registration.pattern.keys
    rw [holds.stored, separate.withKeys?_eq_some_iff.mpr ⟨held, rfl⟩]
    rfl
  apply (List.subperm_of_subset distinct included).perm_of_length_le
  rw [length_entries_ofInsertions, holds.size, List.length_map]

/-- The listing shows the registrations in their order. -/
theorem toList_eq_map_registrations (insertions : List (Pattern × α)) :
    (ofInsertions insertions).toList =
      (Registration.ofInsertions insertions).map fun held => (held.pattern, held.value) := by
  have places := map_place_entries insertions
  have placed : ((Registration.ofInsertions insertions).map entry).Pairwise
      fun left right => left.place ≤ right.place := by
    have ordered : (((Registration.ofInsertions insertions).map entry).map Entry.place).Pairwise
        (· ≤ ·) := by
      rw [places]
      exact List.pairwise_le_range
    exact List.pairwise_map.mp ordered
  have sorted : ((ofInsertions insertions).root.entries.mergeSort
      fun left right => left.place ≤ right.place).Pairwise
        fun left right => decide (left.place ≤ right.place) = true :=
    List.pairwise_mergeSort (by grind) (by grind) _
  simp only [decide_eq_true_eq] at sorted
  have permuted := (entries_perm insertions).trans
    (List.mergeSort_perm _ fun left right => left.place ≤ right.place).symm
  have placesDistinct :
      (((Registration.ofInsertions insertions).map entry).map Entry.place).Nodup := by
    rw [places]
    exact List.nodup_range
  have same := permuted.eq_of_pairwise
    (fun _ _ leftMember rightMember atMost atLeast =>
      List.inj_on_of_nodup_map placesDistinct leftMember (permuted.mem_iff.mpr rightMember)
        (Nat.le_antisymm atMost atLeast))
    placed sorted
  unfold Trie.toList
  rw [← same, List.map_map]
  rfl

theorem entry?_ofInsertions (insertions : List (Pattern × α)) (pattern : Pattern) :
    (Trie.entry? (ofInsertions insertions) pattern).map (fun held => (held.pattern, held.value)) =
      latest? insertions pattern.keys := by
  have stored := (holds_ofInsertions insertions).stored pattern.keys
  rw [← Registration.withKeys?_ofInsertions]
  show ((ofInsertions insertions).root.stored? pattern.keys).map _ = _
  rw [stored, Option.map_map]
  rfl

theorem fst_insert (trie : Trie α) (pattern : Pattern) (value : α) :
    (trie.insert pattern value).1 = (trie.entry? pattern).map (·.value) := by
  unfold Trie.insert
  cases trie.entry? pattern with
  | none => rfl
  | some held => rfl

theorem contains_ofInsertions_iff {insertions : List (Pattern × α)} {pattern : Pattern} :
    (ofInsertions insertions).contains pattern = true ↔
      ∃ inserted ∈ insertions, inserted.1.keys = pattern.keys := by
  rw [← isSome_latest?_iff, ← entry?_ofInsertions, Option.isSome_map]
  rfl

/-- Insertions of distinct structures are listed as they are. -/
theorem toList_ofInsertions_of_distinct {insertions : List (Pattern × α)}
    (distinct : (insertions.map (·.1.keys)).Nodup) :
    (ofInsertions insertions).toList = insertions ∧
      (ofInsertions insertions).size = insertions.length := by
  have kept : (Registration.ofInsertions insertions).map (fun held => (held.pattern, held.value)) =
      insertions := by
    induction insertions using List.reverseRecOn with
    | nil => rfl
    | append_singleton earlier inserted inductionHypothesis =>
        obtain ⟨pattern, value⟩ := inserted
        rw [List.map_append, List.nodup_append] at distinct
        obtain ⟨before, -, apart⟩ := distinct
        have fresh : ¬ (Registration.ofInsertions earlier).any (·.pattern.keys = pattern.keys) := by
          simp only [List.any_eq_true, decide_eq_true_eq, not_exists, not_and]
          intro held member
          exact apart _ (List.mem_map_of_mem (Registration.mem_ofInsertions member)) _ (by simp)
        rw [Registration.ofInsertions_concat, Registration.register, if_neg fresh, List.map_append,
          inductionHypothesis before]
        rfl
  refine ⟨(toList_eq_map_registrations insertions).trans kept, ?_⟩
  rw [(holds_ofInsertions insertions).size, ← congrArg List.length kept, List.length_map]

/-- **A trie is a map in order of first insertion.** After any sequence of insertions the listing
holds each structure once, in the order in which the structures came first, with the pattern and
the value of its latest insertion. The size is the number of structures, a pattern is contained if
one of its structure has been inserted, and a further insertion answers with the value of the
latest one of its structure, if there is one. -/
theorem listing_ofInsertions (insertions : List (Pattern × α)) :
    (ofInsertions insertions).toList = (structures insertions).filterMap (latest? insertions) ∧
      (ofInsertions insertions).toList.map (·.1.keys) = structures insertions ∧
      (structures insertions).Nodup ∧
      (ofInsertions insertions).size = (structures insertions).length ∧
      (∀ pattern, (ofInsertions insertions).contains pattern = true ↔
        ∃ inserted ∈ insertions, inserted.1.keys = pattern.keys) ∧
      ∀ pattern value, ((ofInsertions insertions).insert pattern value).1 =
        (latest? insertions pattern.keys).map (·.2) := by
  have separate := Registration.separate_ofInsertions insertions
  have keys := Registration.map_keys_ofInsertions insertions
  refine ⟨?_, ?_, ?_, ?_, ?_, ?_⟩
  · rw [toList_eq_map_registrations, Registration.map_ofInsertions_eq_filterMap]
  · rw [toList_eq_map_registrations, List.map_map, ← keys]
    rfl
  · rw [← keys]
    exact separate.keys
  · rw [(holds_ofInsertions insertions).size, ← keys, List.length_map]
  · intro pattern
    rw [← isSome_latest?_iff, ← entry?_ofInsertions, Option.isSome_map]
    rfl
  · intro pattern value
    rw [fst_insert, ← entry?_ofInsertions, Option.map_map]
    rfl

end Trie

end HttpService.Routing
