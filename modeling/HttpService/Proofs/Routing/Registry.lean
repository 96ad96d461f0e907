import Mathlib.Data.List.MinMax
import Mathlib.Data.List.Nodup
import Mathlib.Data.Prod.Lex
import HttpService.Routing.Trie

/-!
Contract: the flat list of registrations that a trie stands for.

Owns:
- one registration per key sequence, with the latest pattern and value and the place
  of the first registration;
- which registrations cover a path, what they capture and how they rank;
- the scan of the whole list for the best registration of a path;
- that no two registrations share their keys or their place, and that each one has been inserted.

Does not own: nodes, and the way in which a trie searches.
-/

namespace HttpService.Routing

/-- Whether each key accepts the path segment at its place, with none left over. -/
def Key.acceptAll : List Key → List String → Bool
  | [], [] => true
  | key :: keys, segment :: path => key.accepts segment && acceptAll keys path
  | _, _ => false

/-- Path segments under the names of the dynamic segments at their places. -/
def Segment.capture : List Segment → List String → List (String × String)
  | .dynamic name _ _ :: segments, text :: path => (name, text) :: capture segments path
  | .literal _ :: segments, _ :: path => capture segments path
  | _, _ => []

namespace Pattern

/-- Whether a pattern has as many segments as a path, each of which it accepts. -/
def covers (pattern : Pattern) (path : List String) : Bool :=
  Key.acceptAll pattern.keys path

/-- How many segments are dynamic. -/
def dynamicCount (pattern : Pattern) : Nat :=
  pattern.segments.countP Segment.isDynamic

/-- How many openings and closings are not empty. -/
def constraintCount (pattern : Pattern) : Nat :=
  pattern.segments.foldr (fun segment count => segment.constraints + count) 0

/-- The index of the first dynamic segment, or the number of segments. -/
def firstDynamic (pattern : Pattern) : Nat :=
  pattern.segments.findIdx Segment.isDynamic

theorem length_of_acceptAll : ∀ {keys : List Key} {path : List String},
    Key.acceptAll keys path = true → keys.length = path.length
  | [], [], _ => rfl
  | [], _ :: _, accepted => by cases accepted
  | _ :: _, [], accepted => by cases accepted
  | key :: keys, segment :: path, accepted => by
      rw [Key.acceptAll, Bool.and_eq_true] at accepted
      rw [List.length_cons, List.length_cons, length_of_acceptAll accepted.2]

theorem length_of_covers {pattern : Pattern} {path : List String}
    (covered : pattern.covers path = true) : pattern.segments.length = path.length := by
  rw [← length_of_acceptAll covered]
  exact (List.length_map _).symm

end Pattern

/-- What is kept of a key sequence: the latest pattern and value, and the place of the
first registration. -/
structure Registration (α : Type) where
  pattern : Pattern
  value : α
  place : Nat

namespace Registration

variable {α : Type}

/-- The order of preference, the best first: static before dynamic, then fewer dynamic
segments, more constraints, a later first dynamic segment, an earlier place. -/
def rank (registration : Registration α) : Bool ×ₗ ℕ ×ₗ ℕᵒᵈ ×ₗ ℕᵒᵈ ×ₗ ℕ :=
  let pattern := registration.pattern
  toLex (!pattern.isStatic, toLex (pattern.dynamicCount,
    toLex (OrderDual.toDual pattern.constraintCount,
      toLex (OrderDual.toDual pattern.firstDynamic, registration.place))))

/-- A registration with a later pattern and value in the same place. -/
def renew (pattern : Pattern) (value : α) (held : Registration α) : Registration α :=
  if held.pattern.keys = pattern.keys then ⟨pattern, value, held.place⟩ else held

/-- Adds a registration: it renews the one with the same keys, or becomes the last. -/
def register (held : List (Registration α)) (pattern : Pattern) (value : α) :
    List (Registration α) :=
  if held.any (·.pattern.keys = pattern.keys) then held.map (renew pattern value)
  else held ++ [⟨pattern, value, held.length⟩]

/-- The registrations after a sequence of insertions. -/
def ofInsertions (insertions : List (Pattern × α)) : List (Registration α) :=
  insertions.foldl (fun held (pattern, value) => register held pattern value) []

/-- The best registration that covers a path, with what it captures. -/
def scan (held : List (Registration α)) (path : List String) : Option (Match α) :=
  ((held.filter (·.pattern.covers path)).argmin rank).map fun best =>
    ⟨best.value, best.pattern, Segment.capture best.pattern.segments path⟩

/-- The registration with some keys. -/
def withKeys? (held : List (Registration α)) (keys : List Key) : Option (Registration α) :=
  held.find? (·.pattern.keys = keys)

/-! ## Keys and places are distinct -/

/-- Each key sequence is registered once, and the places count the registrations. -/
structure Separate (held : List (Registration α)) : Prop where
  keys : (held.map (·.pattern.keys)).Nodup
  places : held.map (·.place) = List.range held.length

theorem renew_keys (pattern : Pattern) (value : α) (held : Registration α) :
    (renew pattern value held).pattern.keys = held.pattern.keys := by
  unfold renew
  by_cases same : held.pattern.keys = pattern.keys
  · rw [if_pos same]
    exact same.symm
  · rw [if_neg same]

theorem renew_place (pattern : Pattern) (value : α) (held : Registration α) :
    (renew pattern value held).place = held.place := by
  unfold renew
  split <;> rfl

theorem Separate.register {held : List (Registration α)} (separate : Separate held)
    (pattern : Pattern) (value : α) : Separate (register held pattern value) := by
  unfold Registration.register
  by_cases known : held.any (·.pattern.keys = pattern.keys)
  · rw [if_pos known]
    constructor
    · rw [List.map_map]
      have same : (fun entry : Registration α => entry.pattern.keys) ∘ renew pattern value =
          fun entry => entry.pattern.keys := funext (renew_keys pattern value)
      rw [same]
      exact separate.keys
    · rw [List.map_map, List.length_map]
      have same : (fun entry : Registration α => entry.place) ∘ renew pattern value =
          fun entry => entry.place := funext (renew_place pattern value)
      rw [same]
      exact separate.places
  · rw [if_neg known]
    constructor
    · rw [List.map_append, List.nodup_append]
      refine ⟨separate.keys, by simp, ?_⟩
      intro keys member other single equal
      simp only [List.any_eq_true, decide_eq_true_eq, not_exists, not_and] at known
      obtain ⟨entry, entryMember, rfl⟩ := List.mem_map.mp member
      apply known entry entryMember
      rw [equal]
      simpa using single
    · rw [List.map_append, separate.places, List.length_append, List.length_singleton,
        List.range_succ]
      rfl

theorem separate_ofInsertions (insertions : List (Pattern × α)) :
    Separate (ofInsertions insertions) := by
  have run : ∀ (rest : List (Pattern × α)) (held : List (Registration α)), Separate held →
      Separate (rest.foldl (fun held (pattern, value) =>
        Registration.register held pattern value) held) := by
    intro rest
    induction rest with
    | nil => exact fun _ separate => separate
    | cons head tail inductionHypothesis =>
        intro held separate
        exact inductionHypothesis _ (separate.register head.1 head.2)
  exact run insertions [] ⟨List.nodup_nil, rfl⟩

/-- The rank tells registrations apart, since it ends in the place. -/
theorem Separate.eq_of_rank {held : List (Registration α)} (separate : Separate held)
    {first second : Registration α} (firstHeld : first ∈ held) (secondHeld : second ∈ held)
    (equal : first.rank = second.rank) : first = second := by
  have places : first.place = second.place := by
    simp only [rank, toLex_inj, Prod.mk.injEq] at equal
    exact equal.2.2.2.2
  have distinct : (held.map (·.place)).Nodup := by
    rw [separate.places]
    exact List.nodup_range
  exact List.inj_on_of_nodup_map distinct firstHeld secondHeld places

/-! ## What is registered has been inserted -/

theorem mem_register {held : List (Registration α)} {pattern : Pattern} {value : α}
    {registration : Registration α} (member : registration ∈ register held pattern value) :
    registration ∈ held ∨ registration.pattern = pattern ∧ registration.value = value := by
  unfold register at member
  split at member
  · obtain ⟨old, oldMember, rfl⟩ := List.mem_map.mp member
    unfold renew
    split
    · exact .inr ⟨rfl, rfl⟩
    · exact .inl oldMember
  · rcases List.mem_append.mp member with old | new
    · exact .inl old
    · rw [List.mem_singleton.mp new]
      exact .inr ⟨rfl, rfl⟩

theorem mem_ofInsertions {insertions : List (Pattern × α)} {registration : Registration α}
    (member : registration ∈ ofInsertions insertions) :
    (registration.pattern, registration.value) ∈ insertions := by
  have run : ∀ (rest : List (Pattern × α)) (held : List (Registration α)),
      registration ∈ rest.foldl (fun held (pattern, value) => register held pattern value) held →
        registration ∈ held ∨ (registration.pattern, registration.value) ∈ rest := by
    intro rest
    induction rest with
    | nil => exact fun _ member => .inl member
    | cons head tail inductionHypothesis =>
        intro held member
        rcases inductionHypothesis _ member with old | later
        · rcases mem_register old with held | ⟨pattern, value⟩
          · exact .inl held
          · exact .inr (List.mem_cons.mpr (.inl (Prod.ext pattern value)))
        · exact .inr (List.mem_cons_of_mem head later)
  exact (run insertions [] member).resolve_left List.not_mem_nil

/-! ## The registration of a key sequence -/

theorem withKeys?_register (held : List (Registration α)) (pattern : Pattern) (value : α)
    (keys : List Key) :
    withKeys? (register held pattern value) keys =
      if keys = pattern.keys then
        some ⟨pattern, value, ((withKeys? held keys).map (·.place)).getD held.length⟩
      else withKeys? held keys := by
  unfold withKeys? register
  by_cases known : held.any (·.pattern.keys = pattern.keys)
  · rw [if_pos known, List.find?_map]
    have sameTest : (fun entry : Registration α => decide (entry.pattern.keys = keys)) ∘
        renew pattern value = fun entry => decide (entry.pattern.keys = keys) := by
      funext entry
      simp [renew_keys]
    rw [sameTest]
    by_cases same : keys = pattern.keys
    · subst same
      rw [if_pos rfl]
      cases found : held.find? (·.pattern.keys = pattern.keys) with
      | none =>
          rw [List.find?_eq_none] at found
          obtain ⟨entry, member, equal⟩ := List.any_eq_true.mp known
          exact absurd equal (found entry member)
      | some entry =>
          have equal : entry.pattern.keys = pattern.keys := by
            simpa using List.find?_some found
          simp [renew, equal]
    · rw [if_neg same]
      cases found : held.find? (·.pattern.keys = keys) with
      | none => rfl
      | some entry =>
          have equal : entry.pattern.keys = keys := by simpa using List.find?_some found
          simp [renew, equal, same]
  · rw [if_neg known, List.find?_append]
    by_cases same : keys = pattern.keys
    · subst same
      have missing : held.find? (·.pattern.keys = pattern.keys) = none := by
        rw [List.find?_eq_none]
        intro entry member equal
        exact known (List.any_eq_true.mpr ⟨entry, member, equal⟩)
      simp [missing]
    · simp [same, Ne.symm same]

theorem isSome_withKeys? (held : List (Registration α)) (keys : List Key) :
    (withKeys? held keys).isSome = held.any (·.pattern.keys = keys) := by
  unfold withKeys?
  rw [Bool.eq_iff_iff, List.find?_isSome, List.any_eq_true]

theorem length_register (held : List (Registration α)) (pattern : Pattern) (value : α) :
    (register held pattern value).length =
      if (withKeys? held pattern.keys).isSome = true then held.length else held.length + 1 := by
  rw [isSome_withKeys?]
  unfold register
  split
  · exact List.length_map _
  · exact List.length_append

theorem Separate.withKeys?_eq_some_iff {held : List (Registration α)} (separate : Separate held)
    {keys : List Key} {registration : Registration α} :
    withKeys? held keys = some registration ↔
      registration ∈ held ∧ registration.pattern.keys = keys := by
  unfold withKeys?
  constructor
  · intro found
    exact ⟨List.mem_of_find?_eq_some found, by simpa using List.find?_some found⟩
  · rintro ⟨member, rfl⟩
    cases found : held.find? (·.pattern.keys = registration.pattern.keys) with
    | none =>
        have different := List.find?_eq_none.mp found registration member
        simp at different
    | some other =>
        have otherKeys : other.pattern.keys = registration.pattern.keys := by
          simpa using List.find?_some found
        rw [List.inj_on_of_nodup_map separate.keys (List.mem_of_find?_eq_some found) member
          otherKeys]

end Registration

end HttpService.Routing
