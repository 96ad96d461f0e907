import HttpService.Proofs.Routing.Listing
import HttpService.Routing.Router

/-!
Contract: what registrations make of a router.

Owns:
- registrations one after the other, what each of them is answered, and the routers that they fill;
- resolved patterns, in which no two captures share a name;
- **the routes of every router are a sequence of insertions**, of patterns with distinct captures.

Does not own: what is found in a router.
-/

namespace HttpService.Routing

variable {α : Type}

/-! ## Distinct captures -/

theorem firstRepeated?_eq_none_iff {names : List String} : ∀ {seen : List String},
    firstRepeated? seen names = none ↔ names.Nodup ∧ ∀ name ∈ names, name ∉ seen := by
  induction names with
  | nil => simp [firstRepeated?]
  | cons name rest inductionHypothesis =>
      intro seen
      rw [firstRepeated?]
      by_cases known : name ∈ seen
      · simp [known]
      · rw [if_neg known, inductionHypothesis, List.nodup_cons]
        constructor
        · rintro ⟨distinct, fresh⟩
          have unrepeated : name ∉ rest := fun later => fresh name later List.mem_cons_self
          refine ⟨⟨unrepeated, distinct⟩, ?_⟩
          intro other member
          rcases List.mem_cons.mp member with rfl | later
          · exact known
          · exact fun old => fresh other later (List.mem_cons_of_mem name old)
        · rintro ⟨⟨unrepeated, distinct⟩, fresh⟩
          refine ⟨distinct, ?_⟩
          intro other later old
          rcases List.mem_cons.mp old with rfl | earlier
          · exact unrepeated later
          · exact fresh other (List.mem_cons_of_mem name later) earlier

namespace Pattern

theorem checkCaptures_eq_ok_iff {pattern checked : Pattern} {raw : String} :
    pattern.checkCaptures raw = .ok checked ↔
      pattern = checked ∧ pattern.captureNames.Nodup := by
  unfold checkCaptures
  have repeated := @firstRepeated?_eq_none_iff pattern.captureNames []
  cases found : firstRepeated? [] pattern.captureNames with
  | some name =>
      have doubled : ¬ pattern.captureNames.Nodup := fun distinct =>
        absurd (repeated.mpr ⟨distinct, by simp⟩) (by simp [found])
      simp [doubled]
  | none => simp [(repeated.mp found).1]

end Pattern

namespace Router

/-- A resolved pattern is the one that was written, behind the namespace, and its captures have
distinct names. -/
theorem of_resolve {base resolved : Pattern} {raw : String}
    (found : resolve base raw = .ok resolved) :
    ∃ written, Pattern.ofRoute raw = .ok written ∧
      resolved = ⟨base.segments ++ written.segments⟩ ∧ resolved.captureNames.Nodup := by
  unfold resolve at found
  cases compiled : Pattern.ofRoute raw with
  | error error =>
      rw [compiled] at found
      cases found
  | ok written =>
      rw [compiled] at found
      obtain ⟨same, distinct⟩ := Pattern.checkCaptures_eq_ok_iff.mp found
      exact ⟨written, rfl, same.symm, same ▸ distinct⟩

end Router

/-! ## Registrations -/

/-- A registration: of one route, or of routes under a namespace. -/
inductive Call (α : Type) where
  | route (pattern : String) (value : α)
  | routesUnder (base : String) (routes : List (String × α))

namespace Router

/-- Makes a registration: the value that it replaces, or the error that ends it. -/
def call (router : Router α) : Call α → Except PatternError (Option α) × Router α
  | .route pattern value =>
      match router.add pattern value with
      | .ok (replaced, after) => (.ok replaced, after)
      | .error error => (.error error, router)
  | .routesUnder base routes =>
      match router.addUnder base routes with
      | (some error, after) => (.error error, after)
      | (none, after) => (.ok none, after)

/-- Makes registrations one after the other: what each of them is answered, and the router after
the last one. -/
def calls (router : Router α) :
    List (Call α) → List (Except PatternError (Option α)) × Router α
  | [] => ([], router)
  | next :: rest =>
      ((router.call next).1 :: ((router.call next).2.calls rest).1,
        ((router.call next).2.calls rest).2)

/-- A router that registrations have filled, each of which may have failed. -/
inductive Built : Router α → Prop where
  | empty : Built .empty
  | ofNamespace {base : String} {router : Router α}
      (opened : ofNamespace base = .ok router) : Built router
  | call {router : Router α} (built : Built router) (next : Call α) : Built (router.call next).2

/-- A router with one more insertion. -/
def insert (router : Router α) (pattern : Pattern) (value : α) : Router α :=
  { router with routes := (router.routes.insert pattern value).2 }

theorem call_route (router : Router α) (raw : String) (value : α) :
    router.call (.route raw value) =
      match resolve router.base raw with
      | .error error => (.error error, router)
      | .ok pattern =>
          (.ok (router.routes.insert pattern value).1, router.insert pattern value) := by
  unfold call add
  simp only
  cases resolve router.base raw with
  | error error => rfl
  | ok pattern => rfl

theorem call_routesUnder (router : Router α) (base : String) (routes : List (String × α)) :
    router.call (.routesUnder base routes) =
      ((router.addUnder base routes).1.elim (.ok none) .error,
        (router.addUnder base routes).2) := by
  unfold call
  simp only
  obtain ⟨error, after⟩ := router.addUnder base routes
  cases error with
  | none => rfl
  | some error => rfl

theorem addEach_cons (base : Pattern) (router : Router α) (raw : String) (value : α)
    (rest : List (String × α)) :
    addEach base router ((raw, value) :: rest) =
      match resolve base raw with
      | .error error => (some error, router)
      | .ok pattern => addEach base (router.insert pattern value) rest :=
  rfl

/-- A router under a namespace has no routes yet. -/
theorem of_ofNamespace {base : String} {router : Router α}
    (opened : ofNamespace base = .ok router) :
    ∃ lead, Pattern.ofRoute base = .ok lead ∧ router = ⟨.empty, lead⟩ := by
  unfold ofNamespace at opened
  cases compiled : Pattern.ofRoute base with
  | error error =>
      rw [compiled] at opened
      cases opened
  | ok lead =>
      rw [compiled] at opened
      cases opened
      exact ⟨lead, rfl, rfl⟩

/-! ## What a registration keeps -/

section

variable {holds : Router α → Prop} {router : Router α}

theorem addEach_keeps
    (inserts : ∀ {router : Router α} {base resolved : Pattern} {raw : String} (value : α),
      holds router → resolve base raw = .ok resolved → holds (router.insert resolved value))
    (base : Pattern) (routes : List (String × α)) (now : holds router) :
    holds (addEach base router routes).2 := by
  induction routes generalizing router with
  | nil => exact now
  | cons route rest inductionHypothesis =>
      obtain ⟨raw, value⟩ := route
      rw [addEach_cons]
      cases found : resolve base raw with
      | error error => exact now
      | ok resolved => exact inductionHypothesis (inserts value now found)

/-- What every insertion of a resolved pattern keeps, every registration keeps. -/
theorem call_keeps
    (inserts : ∀ {router : Router α} {base resolved : Pattern} {raw : String} (value : α),
      holds router → resolve base raw = .ok resolved → holds (router.insert resolved value))
    (now : holds router) (next : Call α) : holds (router.call next).2 := by
  cases next with
  | route raw value =>
      rw [call_route]
      cases found : resolve router.base raw with
      | error error => exact now
      | ok resolved => exact inserts value now found
  | routesUnder base routes =>
      rw [call_routesUnder]
      show holds (router.addUnder base routes).2
      unfold addUnder
      cases resolve router.base base with
      | error error => exact now
      | ok whole => exact addEach_keeps inserts whole routes now

end

/-! ## Insertions -/

/-- The routes are what some insertions have left, each of a pattern with distinct captures. -/
def Filled (router : Router α) : Prop :=
  ∃ insertions : List (Pattern × α), router.routes = Trie.ofInsertions insertions ∧
    ∀ inserted ∈ insertions, inserted.1.captureNames.Nodup

theorem filled_of_empty {router : Router α} (none : router.routes = .empty) : router.Filled :=
  ⟨[], none, fun _ member => nomatch member⟩

theorem Filled.insert {router : Router α} (filled : router.Filled) {pattern : Pattern}
    (distinct : pattern.captureNames.Nodup) (value : α) : (router.insert pattern value).Filled := by
  obtain ⟨insertions, routes, earlier⟩ := filled
  refine ⟨insertions ++ [(pattern, value)], ?_, ?_⟩
  · rw [Trie.ofInsertions_concat, ← routes]
    rfl
  · intro inserted member
    rcases List.mem_append.mp member with old | new
    · exact earlier inserted old
    · rw [List.mem_singleton.mp new]
      exact distinct

/-- **The routes of every router are a sequence of insertions.** -/
theorem Built.filled {router : Router α} (built : router.Built) : router.Filled := by
  induction built with
  | empty => exact filled_of_empty rfl
  | ofNamespace opened =>
      obtain ⟨base, _, rfl⟩ := of_ofNamespace opened
      exact filled_of_empty rfl
  | call _ next filled =>
      refine call_keeps ?_ filled next
      intro router base resolved raw value now found
      obtain ⟨_, _, _, distinct⟩ := of_resolve found
      exact now.insert distinct value

end Router

end HttpService.Routing
