import HttpService.Proofs.Routing.NodeView
import HttpService.Proofs.Routing.Ranking

/-!
Contract: a trie finds what a scan of its registrations finds.

Owns:
- the relation between a trie and a list of registrations, and that insertion keeps it;
- **the search as a scan**, for every sequence of insertions and every path, which finds nothing
  but what has been inserted.

Does not own: what the stored entries are listed as.
-/

namespace HttpService.Routing

variable {α : Type}

namespace Trie

open Registration

/-- A trie holds registrations if each key sequence leads to the entry of its
registration. -/
structure Holds (trie : Trie α) (held : List (Registration α)) : Prop where
  distinct : trie.root.Distinct
  stored : ∀ keys, trie.root.stored? keys = (withKeys? held keys).map entry
  nextPlace : trie.nextPlace = held.length
  size : trie.size = held.length

/-- The trie after a sequence of insertions. -/
def ofInsertions (insertions : List (Pattern × α)) : Trie α :=
  insertions.foldl (fun trie (pattern, value) => (trie.insert pattern value).2) .empty

theorem holds_empty : Holds (.empty : Trie α) [] where
  distinct := Node.distinct_bare _
  stored := Node.stored?_bare _
  nextPlace := rfl
  size := rfl

theorem Holds.insert {trie : Trie α} {held : List (Registration α)} (holds : Holds trie held)
    (pattern : Pattern) (value : α) :
    Holds (trie.insert pattern value).2 (register held pattern value) := by
  have found : trie.entry? pattern = (withKeys? held pattern.keys).map entry :=
    holds.stored pattern.keys
  have stored : ∀ place, place = ((withKeys? held pattern.keys).map (·.place)).getD held.length →
      ∀ keys, (trie.root.store ⟨value, pattern, Matcher.ofPattern? pattern, place⟩
        pattern.keys).stored? keys =
        (withKeys? (register held pattern value) keys).map entry := by
    rintro place rfl keys
    rw [Node.stored?_store, withKeys?_register, holds.stored]
    by_cases same : keys = pattern.keys
    · subst same
      rw [if_pos rfl, if_pos rfl]
      rfl
    · rw [if_neg same, if_neg same]
  unfold Trie.insert
  cases known : withKeys? held pattern.keys with
  | none =>
      rw [known, Option.map_none] at found
      simp only [found]
      rw [known] at stored
      constructor
      · exact holds.distinct.store _ _
      · exact stored _ holds.nextPlace
      · simp [length_register, known, holds.nextPlace]
      · simp [length_register, known, holds.size]
  | some registration =>
      rw [known, Option.map_some] at found
      simp only [found]
      rw [known] at stored
      constructor
      · exact holds.distinct.store _ _
      · exact stored _ rfl
      · simp [length_register, known, holds.nextPlace]
      · simp [length_register, known, holds.size]

theorem holds_ofInsertions (insertions : List (Pattern × α)) :
    Holds (ofInsertions insertions) (Registration.ofInsertions insertions) := by
  have run : ∀ (rest : List (Pattern × α)) (trie : Trie α) (held : List (Registration α)),
      Holds trie held →
      Holds (rest.foldl (fun trie (pattern, value) => (trie.insert pattern value).2) trie)
        (rest.foldl (fun held (pattern, value) => register held pattern value) held) := by
    intro rest
    induction rest with
    | nil => exact fun _ _ holds => holds
    | cons head tail inductionHypothesis =>
        intro trie held holds
        exact inductionHypothesis _ _ (holds.insert head.1 head.2)
  exact run insertions .empty [] holds_empty

theorem Holds.mem_reach_iff {trie : Trie α} {held : List (Registration α)}
    (holds : Holds trie held) (separate : Separate held) {path : List String} {found : Entry α} :
    found ∈ (Node.reach path [trie.root]).filterMap Node.entry ↔
      ∃ registration ∈ held, registration.pattern.covers path = true ∧
        registration.entry = found := by
  rw [Node.mem_reach_iff path (by simpa using holds.distinct)]
  constructor
  · rintro ⟨here, member, keys, accepted, stored⟩
    rw [List.mem_singleton.mp member, holds.stored, Option.map_eq_some_iff] at stored
    obtain ⟨registration, known, rfl⟩ := stored
    obtain ⟨registrationHeld, rfl⟩ := separate.withKeys?_eq_some_iff.mp known
    exact ⟨registration, registrationHeld, accepted, rfl⟩
  · rintro ⟨registration, member, covered, rfl⟩
    refine ⟨trie.root, by simp, registration.pattern.keys, covered, ?_⟩
    rw [holds.stored, separate.withKeys?_eq_some_iff.mpr ⟨member, rfl⟩]
    rfl

theorem Holds.best?_reach {trie : Trie α} {held : List (Registration α)}
    (holds : Holds trie held) (separate : Separate held) (path : List String) :
    best? ((Node.reach path [trie.root]).filterMap Node.entry) =
      ((held.filter (·.pattern.covers path)).argmin rank).map entry := by
  -- The entries that are reached and the covering registrations have the same members, but in
  -- another order. The least rank does not depend on it, since ranks are distinct.
  let reached := (Node.reach path [trie.root]).filterMap Node.entry
  let candidates := reached.map Entry.registration
  have origin : ∀ found ∈ reached, found.registration.entry = found ∧
      found.registration ∈ held ∧ found.registration.pattern.covers path = true := by
    intro found member
    obtain ⟨registration, registrationHeld, covered, rfl⟩ :=
      (holds.mem_reach_iff separate).mp member
    exact ⟨rfl, registrationHeld, covered⟩
  have restored : candidates.map entry = reached := by
    rw [List.map_map]
    exact (List.map_congr_left fun found member => (origin found member).1).trans
      (List.map_id reached)
  have sameMembers : ∀ registration,
      registration ∈ candidates ↔ registration ∈ held.filter (·.pattern.covers path) := by
    intro registration
    rw [List.mem_filter]
    constructor
    · intro member
      obtain ⟨found, foundMember, rfl⟩ := List.mem_map.mp member
      exact (origin found foundMember).2
    · rintro ⟨registrationHeld, covered⟩
      exact List.mem_map.mpr ⟨registration.entry,
        (holds.mem_reach_iff separate).mpr ⟨registration, registrationHeld, covered, rfl⟩, rfl⟩
  have candidateHeld : ∀ registration ∈ candidates, registration ∈ held :=
    fun registration member => (List.mem_filter.mp ((sameMembers registration).mp member)).1
  have sameLength : ∀ registration ∈ candidates,
      registration.pattern.segments.length = path.length :=
    fun registration member =>
      Pattern.length_of_covers (List.mem_filter.mp ((sameMembers registration).mp member)).2
  show best? reached = _
  rw [← restored, best?_map_entry sameLength, argmin_rank_congr sameMembers
    fun first firstMember second secondMember equal =>
      separate.eq_of_rank (candidateHeld first firstMember) (candidateHeld second secondMember)
        equal]

theorem Holds.find?_eq {trie : Trie α} {held : List (Registration α)}
    (holds : Holds trie held) (separate : Separate held) (path : List String) :
    trie.find? path = scan held path := by
  unfold Trie.find? scan
  rw [holds.best?_reach separate, Option.map_map]
  refine Option.map_congr fun best member => ?_
  have covered : best.pattern.covers path = true :=
    (List.mem_filter.mp (List.argmin_mem member)).2
  show Match.mk _ _ _ = Match.mk _ _ _
  rw [← extract_ofPattern? covered]
  rfl

/-- A trie without entries finds nothing. -/
theorem find?_empty (path : List String) : (Trie.empty : Trie α).find? path = none :=
  holds_empty.find?_eq (separate_ofInsertions []) path

/-- What is found has been inserted under a pattern that covers the path. -/
theorem mem_insertions_of_find? {insertions : List (Pattern × α)} {path : List String}
    {found : Match α} (search : (ofInsertions insertions).find? path = some found) :
    (found.pattern, found.value) ∈ insertions ∧ found.pattern.covers path = true := by
  rw [(holds_ofInsertions insertions).find?_eq (separate_ofInsertions insertions)] at search
  obtain ⟨best, least, rfl⟩ := Option.map_eq_some_iff.mp search
  obtain ⟨held, covered⟩ := List.mem_filter.mp (List.argmin_mem least)
  exact ⟨mem_ofInsertions held, covered⟩

/-- **A search is a scan.** After any sequence of insertions a trie finds for a path what
a scan of the registrations finds: the value, the pattern and the captures of the covering
registration of least rank. No two registrations share a rank. -/
theorem find?_ofInsertions (insertions : List (Pattern × α)) (path : List String) :
    (ofInsertions insertions).find? path =
        scan (Registration.ofInsertions insertions) path ∧
      ∀ first ∈ Registration.ofInsertions insertions,
        ∀ second ∈ Registration.ofInsertions insertions,
          first.rank = second.rank → first = second := by
  have holds := holds_ofInsertions insertions
  have separate := separate_ofInsertions insertions
  refine ⟨?_, fun _ firstHeld _ secondHeld equal =>
    separate.eq_of_rank firstHeld secondHeld equal⟩
  exact holds.find?_eq separate path

end Trie

end HttpService.Routing
