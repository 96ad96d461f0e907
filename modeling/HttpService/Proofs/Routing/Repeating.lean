import HttpService.Proofs.Query.Values
import HttpService.Proofs.Routing.Listing
import HttpService.Proofs.Routing.Rewriting

/-!
Contract: rewriting a target again and again.

Owns:
- which paths a trie finds something for;
- one rewrite as a whole: what it answers and what it leaves;
- **a number of rewrites in turn**: all are decided by the path that arrived, the routing path is
  that of the first one, and the parameters of the destination are added each time.

Does not own: how the query of a destination is read.
-/

namespace HttpService.Routing

/-- The parameters that a destination adds to those of a target. -/
def Destination.parameters (destination : Destination) (params : List (String × String)) :
    List (String × String) :=
  match destination.rawQuery params with
  | none => []
  | some raw => Query.decodeForm (Utf8.encode raw)

/-- Whether a rule of a file is for a target. -/
def isRewritable (contents : String) (target : Target) : Bool :=
  !target.isAsterisk && (rulesOf contents).any (·.1.covers target.edgePath)

/-! ## What is found -/

namespace Trie

variable {α : Type}

theorem find?_ofInsertions_eq_none_iff {insertions : List (Pattern × α)} {path : List String} :
    (ofInsertions insertions).find? path = none ↔
      insertions.any (·.1.covers path) = false := by
  have keys := Registration.map_keys_ofInsertions insertions
  rw [(holds_ofInsertions insertions).find?_eq (Registration.separate_ofInsertions insertions)]
  unfold Registration.scan
  rw [Option.map_eq_none_iff, List.argmin_eq_none, List.filter_eq_nil_iff, List.any_eq_false]
  constructor
  · intro uncovered inserted member covered
    have known : inserted.1.keys ∈ structures insertions :=
      mem_structures_iff.mpr ⟨inserted, member, rfl⟩
    rw [← keys] at known
    obtain ⟨held, heldMember, same⟩ := List.mem_map.mp known
    apply uncovered held heldMember
    unfold Pattern.covers at covered ⊢
    rw [same]
    exact covered
  · intro uncovered held member
    exact uncovered _ (Registration.mem_ofInsertions member)

end Trie

namespace RewriteTable

variable {contents : String} {table : RewriteTable}

theorem exists_table_of_isOk (loads : (parse contents).isOk = true) :
    ∃ table, parse contents = .ok table := by
  cases read : parse contents with
  | ok table => exact ⟨table, rfl⟩
  | error error =>
      rw [read] at loads
      cases loads

/-! ## One rewrite -/

theorem rewrite_of_not_isRewritable (loaded : parse contents = .ok table) {target : Target}
    (unmatched : isRewritable contents target = false) :
    table.rewrite target = ⟨target, .ok false, []⟩ := by
  unfold isRewritable at unmatched
  unfold rewrite
  cases asterisk : target.isAsterisk with
  | true => rfl
  | false =>
      rw [asterisk, Bool.not_false, Bool.true_and, ← Trie.find?_ofInsertions_eq_none_iff,
        ← rules_parse loaded] at unmatched
      rw [if_neg (by decide), unmatched]

theorem find?_of_isRewritable (loaded : parse contents = .ok table) {target : Target}
    (matched : isRewritable contents target = true) :
    target.isAsterisk = false ∧ ∃ best, table.rules.find? target.edgePath = some best := by
  unfold isRewritable at matched
  rw [Bool.and_eq_true, Bool.not_eq_true'] at matched
  refine ⟨matched.1, ?_⟩
  cases search : table.rules.find? target.edgePath with
  | some best => exact ⟨best, rfl⟩
  | none =>
      rw [rules_parse loaded, Trie.find?_ofInsertions_eq_none_iff, matched.2] at search
      cases search

/-- What is filled in for a target can be read if every `%` in the query of the rule has two digits
behind it. -/
theorem isReadable_of_find? (loaded : parse contents = .ok table) {path : List String}
    {best : Match Destination} (search : table.rules.find? path = some best)
    (whole : ∀ query, best.value.query = some query → Text.Percent.isWhole query.toList = true)
    {raw : String} (asked : best.value.rawQuery best.params = some raw) :
    Query.isReadable raw = true := by
  have member := mem_rulesOf_of_find? loaded search
  obtain ⟨query, held, shape⟩ := toList_of_rawQuery asked
  have plain : '?' ∉ filled best.params query.toList :=
    not_mem_filled (by decide) (by decide) (plain_query_of_mem_rulesOf member held).1
  unfold Query.isReadable
  rw [Text.Percent.isWellFormed_encode, shape, (filled_keeps query.toList).2 (whole query held),
    Bool.and_true, Bool.not_eq_true', List.contains_eq_mem, decide_eq_false plain]

/-- **A rewrite** puts the path of the destination in the place of the routing path, adds the
parameters of the destination, and changes nothing else. -/
theorem rewrite_of_find? {target : Target} (ordinary : target.isAsterisk = false)
    {best : Match Destination} (search : table.rules.find? target.edgePath = some best)
    (readable : ∀ raw, best.value.rawQuery best.params = some raw → Query.isReadable raw = true) :
    (table.rewrite target).result = .ok true ∧
      (table.rewrite target).target = { target with
        rewrittenPath := some (best.value.path best.params)
        query := target.query.addAll (best.value.parameters best.params) } := by
  unfold rewrite Destination.parameters
  rw [ordinary, if_neg (by decide), search]
  simp only
  cases asked : best.value.rawQuery best.params with
  | none => exact ⟨rfl, rfl⟩
  | some raw =>
      simp only [Query.extend_of_isReadable (readable raw asked)]
      exact ⟨trivial, trivial⟩

/-! ## Rewrites in turn -/

/-- A target after a number of rewrites in turn. -/
def rewriteTimes (table : RewriteTable) (target : Target) : Nat → Target
  | 0 => target
  | count + 1 => (table.rewrite (rewriteTimes table target count)).target

theorem rewriteTimes_of_find? {target : Target} (ordinary : target.isAsterisk = false)
    {best : Match Destination} (search : table.rules.find? target.edgePath = some best)
    (readable : ∀ raw, best.value.rawQuery best.params = some raw → Query.isReadable raw = true)
    (count : Nat) :
    table.rewriteTimes target (count + 1) = { target with
      rewrittenPath := some (best.value.path best.params)
      query := target.query.addAll
        (List.replicate (count + 1) (best.value.parameters best.params)).flatten } := by
  induction count with
  | zero =>
      show (table.rewrite target).target = _
      rw [(rewrite_of_find? ordinary search readable).2]
      simp
  | succ count inductionHypothesis =>
      show (table.rewrite (table.rewriteTimes target (count + 1))).target = _
      rw [inductionHypothesis, (rewrite_of_find? (by exact ordinary) (by exact search) readable).2,
        ← Query.addAll_append]
      have oneMore : (List.replicate (count + 1) (best.value.parameters best.params)).flatten ++
          best.value.parameters best.params =
            (List.replicate (count + 2) (best.value.parameters best.params)).flatten := by
        rw [List.replicate_succ' (n := count + 1), List.flatten_append]
        simp
      rw [oneMore]

/-- Rewrites in turn change nothing but the routing path and the query. -/
theorem kept_rewriteTimes (table : RewriteTable) (target : Target) (count : Nat) :
    (table.rewriteTimes target count).edgePath = target.edgePath ∧
      (table.rewriteTimes target count).rawPath = target.rawPath ∧
      (table.rewriteTimes target count).pathParams = target.pathParams ∧
      (table.rewriteTimes target count).isAsterisk = target.isAsterisk := by
  induction count with
  | zero => exact ⟨rfl, rfl, rfl, rfl⟩
  | succ count inductionHypothesis =>
      obtain ⟨edgePath, rawPath, pathParams, isAsterisk⟩ :=
        kept_rewrite table (table.rewriteTimes target count)
      exact ⟨edgePath.trans inductionHypothesis.1, rawPath.trans inductionHypothesis.2.1,
        pathParams.trans inductionHypothesis.2.2.1, isAsterisk.trans inductionHypothesis.2.2.2⟩

theorem rewriteTimes_of_not_isRewritable (loaded : parse contents = .ok table) {target : Target}
    (unmatched : isRewritable contents target = false) (count : Nat) :
    table.rewriteTimes target count = target := by
  induction count with
  | zero => rfl
  | succ count inductionHypothesis =>
      show (table.rewrite (table.rewriteTimes target count)).target = target
      rw [inductionHypothesis, rewrite_of_not_isRewritable loaded unmatched]

/-- **Rewriting is a single step**, however often it is done. With the table of a file whose queries
hold whole escapes, all rewrites in turn give the same answer: whether a rule of the file is for
the target. If none is, the target stays as it is. Otherwise there is a best rule for the path that
arrived, by the scan of the rules; the routing path has one segment for each of its destination,
with captures put in as they are, and each key has, behind its own values, those that the
destination gives it, once for each rewrite. All else stays. -/
theorem rewriteTimes_single_step (loaded : parse contents = .ok table)
    (whole : ∀ rule ∈ rulesOf contents, ∀ query, rule.2.query = some query →
      Text.Percent.isWhole query.toList = true) (target : Target) :
    (∀ count, (table.rewrite (table.rewriteTimes target count)).result =
        .ok (isRewritable contents target)) ∧
      (isRewritable contents target = false → ∀ count,
        table.rewriteTimes target count = target) ∧
      (isRewritable contents target = true → ∃ best,
        (best.pattern, best.value) ∈ rulesOf contents ∧
          Registration.scan (Registration.ofInsertions (rulesOf contents)) target.edgePath =
            some best ∧
          ∀ count,
            List.Forall₂ (fun template segment : String =>
                Substituted (fun name => best.params.lookup name) template.toList segment.toList)
              best.value.segments (table.rewriteTimes target (count + 1)).path ∧
            ∀ key, (table.rewriteTimes target (count + 1)).query.all? key =
              Query.grown (target.query.all? key) (List.replicate (count + 1)
                (Query.valuesOf key (best.value.parameters best.params))).flatten) ∧
      ∀ count, (table.rewriteTimes target count).edgePath = target.edgePath ∧
        (table.rewriteTimes target count).rawPath = target.rawPath ∧
        (table.rewriteTimes target count).pathParams = target.pathParams ∧
        (table.rewriteTimes target count).isAsterisk = target.isAsterisk := by
  have kept := kept_rewriteTimes table target
  cases matched : isRewritable contents target with
  | false =>
      have still := rewriteTimes_of_not_isRewritable loaded matched
      refine ⟨?_, fun _ => still, nofun, kept⟩
      intro count
      rw [still, rewrite_of_not_isRewritable loaded matched]
  | true =>
      obtain ⟨ordinary, best, search⟩ := find?_of_isRewritable loaded matched
      have readable : ∀ raw, best.value.rawQuery best.params = some raw →
          Query.isReadable raw = true :=
        fun _ => isReadable_of_find? loaded search (whole _ (mem_rulesOf_of_find? loaded search))
      have moved := rewriteTimes_of_find? ordinary search readable
      refine ⟨?_, nofun, fun _ => ⟨best, mem_rulesOf_of_find? loaded search, ?_, ?_⟩, kept⟩
      · intro count
        obtain ⟨samePath, _, _, sameAsterisk⟩ := kept count
        exact (rewrite_of_find? (sameAsterisk.trans ordinary) (by rw [samePath, search])
          readable).1
      · rw [rules_parse loaded,
          (Trie.holds_ofInsertions _).find?_eq (Registration.separate_ofInsertions _)] at search
        exact search
      · intro count
        rw [moved]
        refine ⟨?_, ?_⟩
        · show List.Forall₂ _ _ (best.value.segments.map (fillTemplate best.params id))
          rw [List.forall₂_map_right_iff, List.forall₂_same]
          intro template _
          rw [toList_fillTemplate]
          exact substituted_plainlyFilled template.toList
        · intro key
          rw [Query.all?_addAll, Query.valuesOf_replicate]

/-- A rule whose captures go into the path and into the query. -/
def nestedFile : String :=
  "/x/${a} /y/${a}/${b}?q=${a}&r=1"

/-- A target whose captured segment looks like a reference and like two segments. -/
def nestedTarget : Target :=
  ⟨["x", "${a}/z"], none, "/x/$%7Ba%7D%2Fz", false, [], ⟨[("q", #["0"])]⟩⟩

theorem rewriteTimes_single_step_nestedFile :
    ∃ table, parse nestedFile = .ok table ∧
      (∀ count, (table.rewrite (table.rewriteTimes nestedTarget count)).result = .ok true) ∧
      (table.rewriteTimes nestedTarget 2).query.all? "q" = some ["0", "${a}/z", "${a}/z"] := by
  obtain ⟨table, loaded⟩ :=
    exists_table_of_isOk (by decide +kernel : (parse nestedFile).isOk = true)
  have whole : ∀ rule ∈ rulesOf nestedFile, ∀ query, rule.2.query = some query →
      Text.Percent.isWhole query.toList = true := by
    have rules : rulesOf nestedFile = [(⟨[.literal "x", .dynamic "a" "" ""]⟩,
        ⟨"/y/${a}/${b}?q=${a}&r=1", ["y", "${a}", "${b}"], some "q=${a}&r=1"⟩)] := by
      decide +kernel
    rw [rules]
    decide +kernel
  have matched : isRewritable nestedFile nestedTarget = true := by decide +kernel
  obtain ⟨answers, _, moved, _⟩ := rewriteTimes_single_step loaded whole nestedTarget
  obtain ⟨best, _, scanned, after⟩ := moved matched
  have found : (Registration.scan (Registration.ofInsertions (rulesOf nestedFile))
      nestedTarget.edgePath).map (fun best =>
        Query.valuesOf "q" (best.value.parameters best.params)) = some ["${a}/z"] := by
    decide +kernel
  rw [scanned, Option.map_some, Option.some.injEq] at found
  refine ⟨table, loaded, fun count => by rw [answers, matched], ?_⟩
  rw [(after 1).2 "q", found]
  rfl

end RewriteTable

end HttpService.Routing
