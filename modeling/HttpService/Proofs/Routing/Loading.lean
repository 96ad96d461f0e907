import HttpService.Proofs.Routing.Lookup
import HttpService.Routing.Rewrite

/-!
Contract: what a rule file that loads has put into the table.

Owns:
- the rules of the lines of a file, in their order;
- **the table of a file that loads holds these rules**, and finds nothing else;
- what the check of a target says about its query.

Does not own: files that are refused, and what a table does to targets.
-/

namespace HttpService.Routing

/-- The rule of a line, if it holds one. -/
def ruleOf? (line : List Char) : Option (Pattern × Destination) :=
  match readLine line with
  | .ok (.rule source target) =>
      match Pattern.ofRewrite source with
      | .ok pattern => some (pattern, Destination.ofString target)
      | .error _ => none
  | _ => none

/-- The rules of a file in the order of its lines. -/
def rulesOf (contents : String) : List (Pattern × Destination) :=
  (RewriteTable.lines contents).filterMap ruleOf?

/-! ## Loading -/

namespace RewriteTable

/-- A line adds the rule that it holds. -/
theorem rules_addLine {table after : RewriteTable} {line : List Char}
    (added : table.addLine line = .ok after) :
    after.rules =
      match ruleOf? line with
      | some (pattern, destination) => (table.rules.insert pattern destination).2
      | none => table.rules := by
  unfold addLine at added
  unfold ruleOf?
  cases read : readLine line with
  | error fault =>
      rw [read] at added
      cases added
  | ok held =>
      rw [read] at added
      cases held with
      | blank =>
          cases added
          rfl
      | same path =>
          cases added
          rfl
      | rule source target =>
          simp only [addRule] at added
          cases compiled : Pattern.ofRewrite source with
          | error error =>
              rw [compiled] at added
              cases added
          | ok pattern =>
              rw [compiled] at added
              simp only at added
              split at added
              · cases added
              · cases added
                simp only [compiled]

theorem rules_addLines {lines : List (List Char)} :
    ∀ {table after : RewriteTable} {number : Nat}, table.addLines number lines = .ok after →
      after.rules = (lines.filterMap ruleOf?).foldl
        (fun trie (pattern, destination) => (trie.insert pattern destination).2) table.rules := by
  induction lines with
  | nil =>
      intro table after number loaded
      cases loaded
      rfl
  | cons line rest inductionHypothesis =>
      intro table after number loaded
      rw [addLines] at loaded
      cases added : table.addLine line with
      | error fault =>
          rw [added] at loaded
          cases loaded
      | ok next =>
          rw [added] at loaded
          rw [inductionHypothesis loaded, rules_addLine added, List.filterMap_cons]
          cases ruleOf? line with
          | none => rfl
          | some rule => rfl

/-- **A table that loads holds the rules of its file.** -/
theorem rules_parse {contents : String} {table : RewriteTable} (loaded : parse contents = .ok table) :
    table.rules = Trie.ofInsertions (rulesOf contents) :=
  rules_addLines loaded

/-- What such a table finds is a rule of the file. -/
theorem mem_rulesOf_of_find? {contents : String} {table : RewriteTable}
    (loaded : parse contents = .ok table) {path : List String} {found : Match Destination}
    (search : table.rules.find? path = some found) :
    (found.pattern, found.value) ∈ rulesOf contents := by
  rw [rules_parse loaded] at search
  exact (Trie.mem_insertions_of_find? search).1

end RewriteTable

/-! ## Checked targets -/

theorem checkTarget_of_readRule {source target : List Char} {first second : String}
    (read : readRule source target = .ok (.rule first second)) :
    second = String.ofList target ∧ checkTarget target = .ok () := by
  unfold readRule at read
  split at read
  · cases read
  · split at read
    · cases read
    · split at read
      · cases read
      · rename_i checked
        split at read
        · cases read
        · cases read
          exact ⟨rfl, checked⟩

theorem exists_target_of_readLine {line : List Char} {first second : String}
    (read : readLine line = .ok (.rule first second)) :
    ∃ target, second = String.ofList target ∧ checkTarget target = .ok () := by
  unfold readLine at read
  split at read
  · cases read
  · split at read
    · exact ⟨_, checkTarget_of_readRule read⟩
    · cases read

/-- The destination of a rule is that of a checked target. -/
theorem exists_target_of_mem_rulesOf {contents : String} {rule : Pattern × Destination}
    (member : rule ∈ rulesOf contents) :
    ∃ target, rule.2 = Destination.ofString (String.ofList target) ∧ checkTarget target = .ok () := by
  obtain ⟨line, _, held⟩ := List.mem_filterMap.mp member
  unfold ruleOf? at held
  split at held
  · rename_i source target read
    split at held
    · cases held
      obtain ⟨chars, rfl, checked⟩ := exists_target_of_readLine read
      exact ⟨chars, rfl, checked⟩
    · cases held
  · cases held

theorem checkQuery_of_checkTarget {target : List Char} (checked : checkTarget target = .ok ()) :
    checkQuery target (Destination.splitQuery target).2 = .ok () := by
  unfold checkTarget at checked
  split at checked
  · cases checked
  · split at checked
    · cases checked
    · assumption

theorem query_ofString (target : List Char) :
    (Destination.ofString (String.ofList target)).query =
      (Destination.splitQuery target).2.map String.ofList := by
  unfold Destination.ofString
  rw [String.toList_ofList]

/-- The query of a rule has neither a further `?` nor a slash. -/
theorem plain_query_of_mem_rulesOf {contents : String} {rule : Pattern × Destination}
    (member : rule ∈ rulesOf contents) {query : String} (asked : rule.2.query = some query) :
    '?' ∉ query.toList ∧ '/' ∉ query.toList := by
  obtain ⟨target, destination, checked⟩ := exists_target_of_mem_rulesOf member
  have plain := checkQuery_of_checkTarget checked
  rw [destination, query_ofString, Option.map_eq_some_iff] at asked
  obtain ⟨chars, found, rfl⟩ := asked
  rw [found] at plain
  unfold checkQuery at plain
  simp only at plain
  split at plain
  · cases plain
  · rename_i neither
    rw [String.toList_ofList]
    exact not_or.mp neither

end HttpService.Routing
