import HttpService.Proofs.Routing.Lookup

/-!
Contract: an insertion is local to the paths that its pattern covers.

Owns:
- the rank of a registration as a fact about its keys and its place;
- the scan of the registrations after one more insertion, of a known and of a new structure;
- **what an insertion changes in the searches of a trie**: nothing on the paths that its pattern
  does not cover, and on the others at most the answer to its own; a structure that is inserted
  again wins the paths that it has won before.

Does not own: the listing of a trie.
-/

namespace HttpService.Routing

variable {α : Type}

/-! ## Ranks and keys -/

/-- Whether a key is that of a dynamic segment. -/
def Key.isWildcard : Key → Bool
  | exact _ => false
  | wildcard _ _ => true

/-- The constraints of a key that are not empty. -/
def Key.constraints : Key → Nat
  | exact _ => 0
  | wildcard opening closing => (if opening = "" then 0 else 1) + (if closing = "" then 0 else 1)

theorem isWildcard_key (segment : Segment) : segment.key.isWildcard = segment.isDynamic := by
  cases segment <;> rfl

theorem constraints_key (segment : Segment) : segment.key.constraints = segment.constraints := by
  cases segment <;> rfl

namespace Pattern

theorem dynamicCount_eq (pattern : Pattern) :
    pattern.dynamicCount = pattern.keys.countP Key.isWildcard := by
  unfold dynamicCount keys
  rw [List.countP_map]
  exact List.countP_congr fun segment _ => by rw [Function.comp_apply, isWildcard_key]

theorem constraintCount_eq (pattern : Pattern) :
    pattern.constraintCount = pattern.keys.foldr (fun key count => key.constraints + count) 0 := by
  unfold constraintCount keys
  rw [List.foldr_map]
  simp only [constraints_key]

theorem firstDynamic_eq (pattern : Pattern) :
    pattern.firstDynamic = pattern.keys.findIdx Key.isWildcard := by
  unfold firstDynamic keys
  rw [List.findIdx_map]
  congr 1
  funext segment
  exact (isWildcard_key segment).symm

theorem isStatic_eq (pattern : Pattern) :
    pattern.isStatic = pattern.keys.all (!·.isWildcard) := by
  unfold isStatic keys
  rw [List.all_map]
  congr 1
  funext segment
  rw [Function.comp_apply, isWildcard_key]

/-- What a search answers with a pattern. -/
def answer (pattern : Pattern) (value : α) (path : List String) : Match α :=
  ⟨value, pattern, Segment.capture pattern.segments path⟩

end Pattern

namespace Registration

/-- Names of captures do not matter to ranks. -/
theorem rank_congr {left right : Registration α} (keys : left.pattern.keys = right.pattern.keys)
    (place : left.place = right.place) : left.rank = right.rank := by
  unfold rank
  simp only [Pattern.dynamicCount_eq, Pattern.constraintCount_eq, Pattern.firstDynamic_eq,
    Pattern.isStatic_eq, keys, place]

theorem rank_renew (pattern : Pattern) (value : α) (held : Registration α) :
    (renew pattern value held).rank = held.rank :=
  rank_congr (renew_keys pattern value held) (renew_place pattern value held)

theorem argmin_map_renew (pattern : Pattern) (value : α) (held : List (Registration α)) :
    (held.map (renew pattern value)).argmin rank =
      (held.argmin rank).map (renew pattern value) := by
  apply argmin_map_rank
  intro left right
  rw [rank_renew, rank_renew]

theorem covers_renew (pattern : Pattern) (value : α) (path : List String)
    (held : Registration α) :
    (renew pattern value held).pattern.covers path = held.pattern.covers path := by
  unfold Pattern.covers
  rw [renew_keys]

/-! ## Scans -/

/-- A known structure keeps its wins, which are answered with the new pattern and value. -/
theorem scan_register_of_known {held : List (Registration α)} {pattern : Pattern}
    (known : held.any (·.pattern.keys = pattern.keys) = true) (value : α) (path : List String) :
    scan (register held pattern value) path = (scan held path).map fun found =>
      if found.pattern.keys = pattern.keys then pattern.answer value path else found := by
  have sameTest : (fun entry : Registration α => entry.pattern.covers path) ∘
      renew pattern value = fun entry => entry.pattern.covers path :=
    funext (covers_renew pattern value path)
  unfold scan register
  rw [if_pos known, List.filter_map, sameTest, argmin_map_renew, Option.map_map, Option.map_map]
  congr 1
  funext best
  unfold renew Function.comp
  by_cases same : best.pattern.keys = pattern.keys
  · simp only [same, if_true]
    rfl
  · simp only [same, if_false]

/-- A new structure takes a path that it covers if it ranks before what has been found. -/
theorem scan_register_of_fresh {held : List (Registration α)} {pattern : Pattern}
    (fresh : held.any (·.pattern.keys = pattern.keys) = false) (value : α) {path : List String}
    (covered : pattern.covers path = true) :
    scan (register held pattern value) path = scan held path ∧ scan held path ≠ none ∨
      scan (register held pattern value) path = some (pattern.answer value path) := by
  have kept : (held ++ [Registration.mk pattern value held.length]).filter (·.pattern.covers path) =
      held.filter (·.pattern.covers path) ++ [⟨pattern, value, held.length⟩] := by
    rw [List.filter_append, List.filter_singleton, covered]
    rfl
  unfold scan register
  rw [fresh, if_neg (by decide), kept, List.argmin_concat]
  cases (held.filter (·.pattern.covers path)).argmin rank with
  | none => exact .inr rfl
  | some best =>
      by_cases better : (⟨pattern, value, held.length⟩ : Registration α).rank < best.rank
      · exact .inr (congrArg (Option.map _) (if_pos better))
      · exact .inl ⟨congrArg (Option.map _) (if_neg better), nofun⟩

theorem scan_register_of_apart (held : List (Registration α)) {pattern : Pattern} (value : α)
    {path : List String} (apart : pattern.covers path = false) :
    scan (register held pattern value) path = scan held path := by
  cases known : held.any (·.pattern.keys = pattern.keys) with
  | true =>
      rw [scan_register_of_known known]
      cases found : scan held path with
      | none => rfl
      | some best =>
          -- What is found covers the path, so that its keys are others.
          obtain ⟨winner, least, rfl⟩ := Option.map_eq_some_iff.mp found
          have covered := (List.mem_filter.mp (List.argmin_mem least)).2
          have different : winner.pattern.keys ≠ pattern.keys := by
            intro same
            unfold Pattern.covers at covered apart
            rw [same, apart] at covered
            cases covered
          simp only [Option.map_some, different, if_false]
  | false =>
      have dropped : (held ++ [Registration.mk pattern value held.length]).filter
          (·.pattern.covers path) = held.filter (·.pattern.covers path) := by
        rw [List.filter_append, List.filter_singleton, apart]
        exact List.append_nil _
      unfold scan register
      rw [known, if_neg (by decide), dropped]

end Registration

/-! ## Searches -/

namespace Trie

open Registration

/-- The structure that wins a path. -/
def winner? (trie : Trie α) (path : List String) : Option (List Key) :=
  (trie.find? path).map (·.pattern.keys)

/-- What an insertion of a pattern and a value does to the searches of a trie. -/
structure Extends (before after : Trie α) (pattern : Pattern) (value : α) : Prop where
  apart : ∀ path, pattern.covers path = false → after.find? path = before.find? path
  covered : ∀ path, pattern.covers path = true →
    after.find? path = before.find? path ∨ after.find? path = some (pattern.answer value path)
  known : before.contains pattern = true → ∀ path,
    after.winner? path = before.winner? path ∧
      (before.winner? path = some pattern.keys →
        after.find? path = some (pattern.answer value path))
  fresh : before.contains pattern = false → ∀ path, pattern.covers path = true →
    before.find? path = none → after.find? path = some (pattern.answer value path)

theorem Holds.contains_eq {trie : Trie α} {held : List (Registration α)} (holds : Holds trie held)
    (pattern : Pattern) : trie.contains pattern = held.any (·.pattern.keys = pattern.keys) := by
  unfold contains
  show (trie.root.stored? pattern.keys).isSome = _
  rw [holds.stored, Option.isSome_map, isSome_withKeys?]

/-- **Adding a pattern only affects the paths that it covers.** On all other paths every search
finds what it has found before: value, pattern and captures. On the paths that it covers a search
finds that or the new pattern with its value, and the latter if nothing has been found before. If
the structure of the pattern is known, every path is won by the structure that has won it before,
and the paths of this one are answered with the new pattern and value. -/
theorem extends_insert (insertions : List (Pattern × α)) (pattern : Pattern) (value : α) :
    Extends (ofInsertions insertions) ((ofInsertions insertions).insert pattern value).2
      pattern value := by
  have holds := holds_ofInsertions insertions
  have separate := separate_ofInsertions insertions
  have before := holds.find?_eq separate
  have after := (holds.insert pattern value).find?_eq (separate.register pattern value)
  have contained := holds.contains_eq pattern
  constructor
  case apart =>
    intro path apart
    rw [after, before, scan_register_of_apart _ value apart]
  case covered =>
    intro path covered
    rw [after, before]
    cases known : (Registration.ofInsertions insertions).any (·.pattern.keys = pattern.keys) with
    | true =>
        rw [scan_register_of_known known]
        cases scan (Registration.ofInsertions insertions) path with
        | none => exact .inl rfl
        | some found =>
            by_cases same : found.pattern.keys = pattern.keys
            · exact .inr (congrArg some (if_pos same))
            · exact .inl (congrArg some (if_neg same))
    | false => exact (scan_register_of_fresh known value covered).imp_left And.left
  case known =>
    intro known path
    rw [contained] at known
    unfold winner?
    rw [after, before, scan_register_of_known known]
    cases scan (Registration.ofInsertions insertions) path with
    | none => exact ⟨rfl, nofun⟩
    | some found =>
        rw [Option.map_some]
        by_cases same : found.pattern.keys = pattern.keys
        · rw [if_pos same]
          exact ⟨congrArg some same.symm, fun _ => rfl⟩
        · rw [if_neg same]
          exact ⟨rfl, fun won => absurd (Option.some.inj won) same⟩
  case fresh =>
    intro fresh path covered unfound
    rw [contained] at fresh
    rw [before] at unfound
    rw [after]
    exact (scan_register_of_fresh fresh value covered).resolve_left fun kept => kept.2 unfound

end Trie

end HttpService.Routing
