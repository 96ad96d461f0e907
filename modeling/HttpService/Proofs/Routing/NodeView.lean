import Mathlib.Data.List.Nodup
import HttpService.Proofs.Routing.Registry

/-!
Contract: what is stored at the end of each way down from a node.

Owns:
- the view of a node as a map from key sequences to entries, and the law of storing;
- that the nodes below a node have distinct keys, which storing preserves;
- the entries that a path reaches: those of the key sequences that accept it.

Does not own: the order of entries, and the counters of a trie.
-/

namespace HttpService.Routing.Node

variable {α : Type}

/-- The entry at the end of a way down. -/
def stored? (keys : List Key) (here : Node α) : Option (Entry α) :=
  (descend? keys here).bind entry

/-! ## Ways down -/

@[simp]
theorem stored?_cons (next : Key) (keys : List Key) (here : Node α) :
    stored? (next :: keys) here = (child? next here.children).bind (stored? keys) := by
  unfold stored?
  rw [descend?, Option.bind_assoc]

theorem stored?_bare (key : Key) : ∀ keys : List Key, stored? keys (bare key : Node α) = none
  | [] => rfl
  | next :: keys => by
      rw [stored?_cons]
      rfl

@[simp]
theorem key_store (entry : Entry α) (keys : List Key) (here : Node α) :
    (store entry keys here).key = here.key := by
  cases here
  cases keys <;> rfl

theorem child?_updateChild {change : Node α → Node α}
    (keepsKey : ∀ child, (change child).key = child.key) (next other : Key)
    (children : List (Node α)) :
    child? other (updateChild next change children) =
      if other = next then some (change ((child? next children).getD (bare next)))
      else child? other children := by
  induction children with
  | nil =>
      have fresh : (change (bare next)).key = next := keepsKey (bare next)
      by_cases same : other = next
      · subst same
        simp [updateChild, child?, fresh]
      · simp [updateChild, child?, fresh, same, Ne.symm same]
  | cons child rest inductionHypothesis =>
      unfold child? at inductionHypothesis ⊢
      by_cases here : child.key = next
      · have changed : (change child).key = next := (keepsKey child).trans here
        by_cases same : other = next
        · subst same
          simp [updateChild, here, changed]
        · simp [updateChild, here, changed, same, Ne.symm same]
      · simp only [updateChild, here, if_false, List.find?_cons, decide_false]
        by_cases found : child.key = other
        · have different : other ≠ next := fun equal => here (found.trans equal)
          simp [found, different]
        · simp only [found, decide_false]
          exact inductionHypothesis

/-- **Storing changes one key sequence.** -/
theorem stored?_store (entry : Entry α) (keys other : List Key) (here : Node α) :
    stored? other (store entry keys here) =
      if other = keys then some entry else stored? other here := by
  -- Down both key sequences at once; a missing child is stored below a bare one.
  induction keys generalizing other here with
  | nil =>
      cases here
      cases other <;> rfl
  | cons next keys inductionHypothesis =>
      rcases here with ⟨key, held, children⟩
      cases other with
      | nil => rfl
      | cons first rest =>
          show stored? (first :: rest)
              (node key held (updateChild next (store entry keys) children)) = _
          rw [stored?_cons, stored?_cons]
          show (child? first (updateChild next (store entry keys) children)).bind (stored? rest) =
            if first :: rest = next :: keys then some entry
            else (child? first children).bind (stored? rest)
          rw [child?_updateChild (key_store entry keys)]
          by_cases sameKey : first = next
          · subst sameKey
            rw [if_pos rfl, Option.bind_some, inductionHypothesis]
            by_cases sameRest : rest = keys
            · simp [sameRest]
            · simp only [sameRest, if_false, List.cons.injEq, true_and]
              cases child? first children with
              | none => exact stored?_bare first rest
              | some child => rfl
          · simp [sameKey]

/-! ## Distinct keys -/

/-- The children of a node, and of every node below it, have distinct keys. -/
inductive Distinct : Node α → Prop where
  | node {key : Key} {entry : Option (Entry α)} {children : List (Node α)} :
      (children.map Node.key).Nodup → (∀ child ∈ children, Distinct child) →
      Distinct (.node key entry children)

theorem Distinct.keys {here : Node α} (distinct : Distinct here) :
    (here.children.map Node.key).Nodup := by
  cases distinct with
  | node keys _ => exact keys

theorem Distinct.child {here child : Node α} (distinct : Distinct here)
    (member : child ∈ here.children) : Distinct child := by
  cases distinct with
  | node _ below => exact below child member

theorem distinct_bare (key : Key) : Distinct (bare key : Node α) :=
  .node List.nodup_nil (by simp)

theorem mem_updateChild {next : Key} {change : Node α → Node α} {child : Node α} :
    ∀ {children : List (Node α)}, child ∈ updateChild next change children →
      child ∈ children ∨ ∃ old, (old ∈ children ∨ old = bare next) ∧ child = change old
  | [], member => Or.inr ⟨bare next, Or.inr rfl, by simpa [updateChild] using member⟩
  | head :: rest, member => by
      by_cases here : head.key = next
      · simp only [updateChild, here, if_true, List.mem_cons] at member
        rcases member with rfl | old
        · exact Or.inr ⟨head, Or.inl (by simp), rfl⟩
        · exact Or.inl (List.mem_cons_of_mem _ old)
      · simp only [updateChild, here, if_false, List.mem_cons] at member
        rcases member with rfl | below
        · exact Or.inl (by simp)
        · rcases mem_updateChild below with old | ⟨old, origin, rfl⟩
          · exact Or.inl (List.mem_cons_of_mem _ old)
          · exact Or.inr ⟨old, origin.imp_left (List.mem_cons_of_mem _), rfl⟩

theorem keys_updateChild {change : Node α → Node α}
    (keepsKey : ∀ child, (change child).key = child.key) (next : Key)
    (children : List (Node α)) :
    (updateChild next change children).map key =
      if next ∈ children.map key then children.map key else children.map key ++ [next] := by
  induction children with
  | nil =>
      show [(change (bare next)).key] = [next]
      rw [keepsKey]
      rfl
  | cons child rest inductionHypothesis =>
      by_cases here : child.key = next
      · simp [updateChild, here, keepsKey]
      · simp only [updateChild, here, if_false, List.map_cons, inductionHypothesis,
          List.mem_cons, Ne.symm here, false_or]
        split <;> rfl

theorem Distinct.store (entry : Entry α) (keys : List Key) {here : Node α}
    (distinct : Distinct here) : Distinct (store entry keys here) := by
  induction keys generalizing here with
  | nil =>
      cases distinct with
      | node keys below => exact .node keys below
  | cons next keys inductionHypothesis =>
      cases distinct with
      | node distinctKeys below =>
          apply Distinct.node
          · rw [keys_updateChild (key_store entry keys)]
            split
            · exact distinctKeys
            · rename_i fresh
              rw [← List.concat_eq_append]
              exact distinctKeys.concat fresh
          · intro child member
            rcases mem_updateChild member with old | ⟨old, origin, rfl⟩
            · exact below child old
            · apply inductionHypothesis
              rcases origin with old' | rfl
              · exact below old old'
              · exact distinct_bare next

theorem child?_key {children : List (Node α)} (distinct : (children.map key).Nodup)
    {child : Node α} (member : child ∈ children) : child? child.key children = some child := by
  unfold child?
  rw [List.find?_eq_some_iff_append]
  obtain ⟨front, back, rfl⟩ := List.append_of_mem member
  refine ⟨by simp, front, back, rfl, ?_⟩
  intro other otherMember
  rw [List.map_append, List.map_cons, List.nodup_append] at distinct
  have different := distinct.2.2 other.key (List.mem_map_of_mem otherMember)
    child.key (by simp)
  simpa using different

/-! ## Paths -/

/-- **A path reaches what its key sequences store.** -/
theorem mem_reach_iff {entry : Entry α} (path : List String) {nodes : List (Node α)}
    (distinct : ∀ here ∈ nodes, Distinct here) :
    entry ∈ (reach path nodes).filterMap Node.entry ↔
      ∃ here ∈ nodes, ∃ keys, Key.acceptAll keys path = true ∧
        stored? keys here = some entry := by
  -- Along the path: the nodes of the next level are again distinct below.
  induction path generalizing nodes with
  | nil =>
      simp only [reach, List.mem_filterMap]
      constructor
      · rintro ⟨here, member, found⟩
        exact ⟨here, member, [], rfl, found⟩
      · rintro ⟨here, member, keys, accepted, found⟩
        cases keys with
        | nil => exact ⟨here, member, found⟩
        | cons next keys => cases accepted
  | cons segment path inductionHypothesis =>
      have below : ∀ child ∈ (nodes.flatMap children).filter (·.key.accepts segment),
          Distinct child := by
        intro child member
        obtain ⟨here, hereMember, childMember⟩ :=
          List.mem_flatMap.mp (List.mem_filter.mp member).1
        exact (distinct here hereMember).child childMember
      rw [reach, inductionHypothesis below]
      constructor
      · rintro ⟨child, member, keys, accepted, found⟩
        obtain ⟨childMember, keyAccepts⟩ := List.mem_filter.mp member
        obtain ⟨here, hereMember, childMember⟩ := List.mem_flatMap.mp childMember
        refine ⟨here, hereMember, child.key :: keys, ?_, ?_⟩
        · rw [Key.acceptAll, keyAccepts, accepted]
          rfl
        · rw [stored?_cons, child?_key (distinct here hereMember).keys childMember]
          exact found
      · rintro ⟨here, hereMember, keys, accepted, found⟩
        cases keys with
        | nil => cases accepted
        | cons next keys =>
            rw [Key.acceptAll, Bool.and_eq_true] at accepted
            rw [stored?_cons, Option.bind_eq_some_iff] at found
            obtain ⟨child, childFound, found⟩ := found
            have childMember : child ∈ here.children := List.mem_of_find?_eq_some childFound
            have sameKey : child.key = next := by
              simpa using List.find?_some childFound
            refine ⟨child, ?_, keys, accepted.2, found⟩
            rw [List.mem_filter, List.mem_flatMap, sameKey]
            exact ⟨⟨here, hereMember, childMember⟩, accepted.1⟩

end HttpService.Routing.Node
