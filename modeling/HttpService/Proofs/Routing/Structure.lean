import HttpService.Proofs.Routing.Listing

/-!
Contract: the representation of a trie.

Owns:
- the nodes of a trie with the keys on the way down to each of them;
- when an entry belongs to a key sequence;
- well-formed tries, and that insertion keeps a trie well-formed;
- **that every sequence of insertions makes a well-formed trie**.

Does not own: what is found in a trie or listed of it.
-/

namespace HttpService.Routing

variable {α : Type}

namespace Node

/-! ## Positions -/

mutual

/-- A node and all those below it, each with the keys on the way down to it. -/
def positions : Node α → List (List Key × Node α)
  | node key entry children => ([], node key entry children) :: positionsBelow children

/-- Some nodes and all those below them, each with the keys on the way from above. -/
def positionsBelow : List (Node α) → List (List Key × Node α)
  | [] => []
  | child :: rest =>
      (child.positions.map fun position => (child.key :: position.1, position.2)) ++
        positionsBelow rest

end

theorem positions_eq (here : Node α) :
    here.positions = ([], here) :: positionsBelow here.children := by
  cases here
  rfl

theorem mem_positionsBelow_iff {children : List (Node α)} {position : List Key × Node α} :
    position ∈ positionsBelow children ↔
      ∃ child ∈ children, ∃ below ∈ child.positions,
        position = (child.key :: below.1, below.2) := by
  induction children with
  | nil => simp [positionsBelow]
  | cons child rest inductionHypothesis =>
      rw [positionsBelow, List.mem_append, inductionHypothesis, List.mem_map]
      constructor
      · rintro (⟨below, member, rfl⟩ | ⟨other, member, further⟩)
        · exact ⟨child, List.mem_cons_self, below, member, rfl⟩
        · exact ⟨other, List.mem_cons_of_mem child member, further⟩
      · rintro ⟨other, member, below, inside, rfl⟩
        rcases List.mem_cons.mp member with rfl | later
        · exact .inl ⟨below, inside, rfl⟩
        · exact .inr ⟨other, later, below, inside, rfl⟩

/-- Where the keys of siblings are distinct, a node stands at the end of the way that leads to
it. -/
theorem mem_positions_iff {keys : List Key} {here found : Node α} (distinct : here.Distinct) :
    (keys, found) ∈ here.positions ↔ descend? keys here = some found := by
  rw [positions_eq, List.mem_cons, mem_positionsBelow_iff]
  induction keys generalizing here with
  | nil =>
      rw [descend?, Option.some.injEq]
      constructor
      · rintro (same | ⟨child, -, below, -, same⟩)
        · exact (Prod.mk.inj same).2.symm
        · cases same
      · rintro rfl
        exact .inl rfl
  | cons next keys inductionHypothesis =>
      rw [descend?, Option.bind_eq_some_iff]
      constructor
      · rintro (same | ⟨child, member, ⟨below, last⟩, inside, same⟩)
        · cases same
        · cases same
          refine ⟨child, child?_key distinct.keys member, ?_⟩
          rw [← inductionHypothesis (distinct.child member), ← mem_positionsBelow_iff,
            ← List.mem_cons, ← positions_eq]
          exact inside
      · rintro ⟨child, known, rest⟩
        have member : child ∈ here.children := List.mem_of_find?_eq_some known
        have named : child.key = next := by simpa using List.find?_some known
        rw [← inductionHypothesis (distinct.child member), ← mem_positionsBelow_iff,
          ← List.mem_cons, ← positions_eq] at rest
        exact .inr ⟨child, member, (keys, found), rest, by rw [named]⟩

/-- What is held at some position is what a way down leads to. -/
theorem stored?_eq_some_iff {keys : List Key} {here : Node α} (distinct : here.Distinct)
    {entry : Entry α} :
    stored? keys here = some entry ↔
      ∃ found, (keys, found) ∈ here.positions ∧ found.entry = some entry := by
  unfold stored?
  simp only [Option.bind_eq_some_iff, mem_positions_iff distinct]

theorem Distinct.of_positions : ∀ {here : Node α},
    (∀ position ∈ here.positions, (position.2.children.map Node.key).Nodup) → here.Distinct
  | .node key entry children, apart => by
      rw [positions_eq, List.forall_mem_cons] at apart
      refine .node apart.1 fun child member => ?_
      apply Distinct.of_positions
      intro position inside
      exact apart.2 (child.key :: position.1, position.2)
        (mem_positionsBelow_iff.mpr ⟨child, member, position, inside, rfl⟩)

theorem distinct_descend? {keys : List Key} {here found : Node α} (distinct : here.Distinct)
    (reached : descend? keys here = some found) : found.Distinct := by
  induction keys generalizing here with
  | nil =>
      cases reached
      exact distinct
  | cons next keys inductionHypothesis =>
      rw [descend?, Option.bind_eq_some_iff] at reached
      obtain ⟨child, known, rest⟩ := reached
      exact inductionHypothesis (distinct.child (List.mem_of_find?_eq_some known)) rest

/-- Distinct keys, read off the positions. -/
theorem distinct_iff_positions {here : Node α} :
    here.Distinct ↔
      ∀ position ∈ here.positions, (position.2.children.map Node.key).Nodup := by
  refine ⟨fun distinct position member => ?_, Distinct.of_positions⟩
  exact (distinct_descend? distinct ((mem_positions_iff distinct).mp member)).keys

mutual

theorem filterMap_positions : ∀ here : Node α,
    here.positions.filterMap (·.2.entry) = here.entries
  | .node key entry children => by
      rw [positions, entries, List.filterMap_cons, filterMap_positionsBelow children]
      cases entry with
      | none => rfl
      | some entry => rfl

theorem filterMap_positionsBelow : ∀ children : List (Node α),
    (positionsBelow children).filterMap (·.2.entry) = entriesBelow children
  | [] => rfl
  | child :: rest => by
      rw [positionsBelow, entriesBelow, List.filterMap_append, filterMap_positionsBelow rest,
        ← filterMap_positions child, List.filterMap_map]
      rfl

end

/-- As many positions hold an entry as there are entries. -/
theorem countP_positions (here : Node α) :
    here.positions.countP (·.2.entry.isSome) = here.entries.length := by
  rw [← filterMap_positions, List.length_filterMap_eq_countP]

end Node

/-! ## Entries and their positions -/

theorem lt_of_mem_capturesFrom {segments : List Segment} {index : Nat} {capture : Nat × String}
    (member : capture ∈ capturesFrom index segments) : capture.1 < index + segments.length := by
  induction segments generalizing index with
  | nil => cases member
  | cons segment rest inductionHypothesis =>
      rw [List.length_cons]
      cases segment with
      | literal text =>
          have further : capture.1 < index + 1 + rest.length := inductionHypothesis member
          omega
      | dynamic name opening closing =>
          rcases List.mem_cons.mp member with rfl | later
          · show index < _
            omega
          · have further := inductionHypothesis later
            omega

/-- A pattern has no matcher if it is static, and otherwise one that captures segments of it. -/
theorem Matcher.bounds_ofPattern? (pattern : Pattern) :
    (ofPattern? pattern = none ↔ pattern.isStatic = true) ∧
      ∀ matcher, ofPattern? pattern = some matcher →
        ∀ capture ∈ matcher.captures, capture.1 < pattern.segments.length := by
  rw [ofPattern?_eq]
  by_cases static : pattern.isStatic = true
  · rw [if_pos static]
    exact ⟨iff_of_true rfl static, fun matcher given => nomatch given⟩
  · rw [if_neg static]
    refine ⟨iff_of_false (Option.some_ne_none _) static, ?_⟩
    rintro matcher given capture member
    cases given
    rw [← Nat.zero_add pattern.segments.length]
    exact lt_of_mem_capturesFrom member

/-- An entry belongs to the keys of its own pattern, with the matcher of that pattern. -/
structure Entry.Fits (entry : Entry α) (keys : List Key) : Prop where
  keys : entry.pattern.keys = keys
  matcher : entry.matcher = Matcher.ofPattern? entry.pattern

namespace Node

/-- Storing an entry where it belongs keeps what holds of every entry and its position. -/
theorem forall_positions_store (holds : List Key → Entry α → Prop) {keys : List Key}
    {here : Node α} {entry : Entry α} (distinct : here.Distinct)
    (old : ∀ position ∈ here.positions, ∀ held, position.2.entry = some held →
      holds position.1 held) (new : holds keys entry) :
    ∀ position ∈ (store entry keys here).positions, ∀ held, position.2.entry = some held →
      holds position.1 held := by
  rintro ⟨way, found⟩ member held stands
  have stored := (stored?_eq_some_iff (distinct.store entry keys)).mpr ⟨found, member, stands⟩
  rw [stored?_store] at stored
  by_cases same : way = keys
  · rw [if_pos same] at stored
    cases stored
    rw [same]
    exact new
  · rw [if_neg same, stored?_eq_some_iff distinct] at stored
    obtain ⟨before, known, kept⟩ := stored
    exact old (way, before) known held kept

end Node

/-! ## Well-formed tries -/

/-- A trie as it represents a map: siblings have distinct keys, each entry stands at the end of the
way that its pattern describes, the places of entries are distinct and have been given, and both
counters tell how many positions hold an entry. -/
structure Trie.WellFormed (trie : Trie α) : Prop where
  apart : ∀ position ∈ trie.root.positions, (position.2.children.map Node.key).Nodup
  fits : ∀ position ∈ trie.root.positions, ∀ entry, position.2.entry = some entry →
    entry.Fits position.1
  places : ((trie.root.positions.filterMap (·.2.entry)).map Entry.place).Nodup
  placed : ∀ position ∈ trie.root.positions, ∀ entry, position.2.entry = some entry →
    entry.place < trie.nextPlace
  size : trie.size = trie.root.positions.countP (·.2.entry.isSome)
  nextPlace : trie.nextPlace = trie.size

namespace Trie

theorem wellFormed_empty : WellFormed (.empty : Trie α) := by
  have root : (Trie.empty : Trie α).root.positions = [([], .bare (.exact ""))] := rfl
  constructor
  · simp [root, Node.bare, Node.children]
  · simp [root, Node.bare, Node.entry]
  · simp [root, Node.bare, Node.entry]
  · simp [root, Node.bare, Node.entry]
  · rfl
  · rfl

namespace WellFormed

variable {trie : Trie α}

theorem distinct (wellFormed : trie.WellFormed) : trie.root.Distinct :=
  Node.distinct_iff_positions.mpr wellFormed.apart

theorem of_mem_entries (wellFormed : trie.WellFormed) {entry : Entry α}
    (member : entry ∈ trie.root.entries) :
    entry.Fits entry.pattern.keys ∧ entry.place < trie.nextPlace := by
  rw [← Node.filterMap_positions, List.mem_filterMap] at member
  obtain ⟨position, inside, held⟩ := member
  have fits := wellFormed.fits position inside entry held
  exact ⟨⟨rfl, fits.matcher⟩, wellFormed.placed position inside entry held⟩

/-- Storing an entry of a pattern keeps a trie well-formed if the entry has the place of the one
that it replaces, or else the next place, and if the counters are right. -/
theorem store (wellFormed : trie.WellFormed) (entry : Entry α) {nextPlace : Nat}
    (fits : entry.Fits entry.pattern.keys)
    (place : entry.place = ((trie.entry? entry.pattern).map Entry.place).getD trie.nextPlace)
    (next : nextPlace = trie.nextPlace + if (trie.entry? entry.pattern).isSome then 0 else 1) :
    WellFormed ⟨trie.root.store entry entry.pattern.keys, nextPlace, nextPlace⟩ := by
  obtain ⟨others, before, after⟩ := Node.perm_entries_store entry entry.pattern.keys trie.root
  have known : trie.entry? entry.pattern = trie.root.stored? entry.pattern.keys := rfl
  have counted : trie.size = trie.root.entries.length := by
    rw [wellFormed.size, Node.countP_positions]
  have below : entry.place < nextPlace := by
    rw [place, next]
    cases found : trie.entry? entry.pattern with
    | none => exact Nat.lt_succ_self _
    | some held =>
        have member := Node.mem_entries_of_stored? _ (known.symm.trans found)
        exact (wellFormed.of_mem_entries member).2
  constructor
  · exact Node.distinct_iff_positions.mp (wellFormed.distinct.store _ _)
  · exact Node.forall_positions_store (fun keys held => held.Fits keys)
      wellFormed.distinct wellFormed.fits fits
  · have places := wellFormed.places
    rw [Node.filterMap_positions, (before.map Entry.place).nodup_iff, ← known] at places
    rw [Node.filterMap_positions, (after.map Entry.place).nodup_iff, List.map_cons, place]
    cases found : trie.entry? entry.pattern with
    | some held =>
        rw [found] at places
        exact places
    | none =>
        rw [found] at places
        refine List.nodup_cons.mpr ⟨fun member => ?_, places⟩
        obtain ⟨held, inside, same⟩ := List.mem_map.mp member
        have earlier := wellFormed.of_mem_entries
          (before.mem_iff.mpr (List.mem_append_right _ inside))
        rw [same] at earlier
        exact Nat.lt_irrefl _ earlier.2
  · refine Node.forall_positions_store (fun _ held => held.place < nextPlace)
      wellFormed.distinct ?_ below
    intro position member held stands
    have earlier := wellFormed.placed position member held stands
    omega
  · rw [Node.countP_positions, Node.length_entries_store, ← known, ← counted, next,
      wellFormed.nextPlace]
  · rfl

end WellFormed

/-- **Insertion keeps a trie well-formed**, whatever it inserts. -/
theorem WellFormed.insert {trie : Trie α} (wellFormed : trie.WellFormed) (pattern : Pattern)
    (value : α) : (trie.insert pattern value).2.WellFormed := by
  unfold Trie.insert
  cases found : trie.entry? pattern with
  | none =>
      have stored := wellFormed.store
        ⟨value, pattern, Matcher.ofPattern? pattern, trie.nextPlace⟩ ⟨rfl, rfl⟩
        (by rw [found]; rfl) (by rw [found])
      rw [wellFormed.nextPlace] at stored ⊢
      exact stored
  | some held =>
      have stored := wellFormed.store
        ⟨value, pattern, Matcher.ofPattern? pattern, held.place⟩ ⟨rfl, rfl⟩
        (by rw [found]; rfl) (by rw [found])
      obtain ⟨root, nextPlace, size⟩ := trie
      cases wellFormed.nextPlace
      exact stored

/-- **Every sequence of insertions makes a well-formed trie.** In it each entry is stored under the
keys of its own pattern and has the matcher of that pattern: none if the pattern is static, and
otherwise one that captures at indices within the pattern. -/
theorem wellFormed_ofInsertions (insertions : List (Pattern × α)) :
    (ofInsertions insertions).WellFormed ∧
      ∀ entry ∈ (ofInsertions insertions).root.entries,
        (entry.matcher = none ↔ entry.pattern.isStatic = true) ∧
          ∀ matcher, entry.matcher = some matcher →
            ∀ capture ∈ matcher.captures, capture.1 < entry.pattern.segments.length := by
  have wellFormed : (ofInsertions insertions).WellFormed := by
    induction insertions using List.reverseRecOn with
    | nil => exact wellFormed_empty
    | append_singleton earlier inserted inductionHypothesis =>
        rw [ofInsertions_concat]
        exact inductionHypothesis.insert inserted.1 inserted.2
  refine ⟨wellFormed, fun entry member => ?_⟩
  rw [(wellFormed.of_mem_entries member).1.matcher]
  exact Matcher.bounds_ofPattern? entry.pattern

end Trie

end HttpService.Routing
