import HttpService.Proofs.Query.Forms
import HttpService.Proofs.Routing.Loading
import HttpService.Proofs.Routing.Substitution

/-!
Contract: when the rewriting of a target fails.

Owns:
- filled in queries: they have a `?` only where the query has one, and every `%` of a query that
  two digits follow keeps them;
- **a table that loads fails a target exactly if the query that is filled in for it holds a `%`
  without two digits behind it**, and never if every `%` in the queries of its file has two digits
  behind it;
- that a target is rewritten in the same way however often it has been rewritten before.

Does not own: the path and the parameters of a rewritten target.
-/

namespace HttpService.Routing

open Text

/-! ## Filled in texts -/

/-- The characters that a piece is written with. -/
def Piece.written : Piece → List Char
  | char c => [c]
  | reference name => writeReference name

/-- Nothing of a text is lost in its pieces. -/
theorem flatMap_written_pieces (chars : List Char) :
    (pieces chars).flatMap Piece.written = chars := by
  fun_induction pieces chars with
  | case1 => rfl
  | case2 rest name after cut inductionHypothesis =>
      rw [List.flatMap_cons, inductionHypothesis, eq_append_of_cut? cut]
      simp [Piece.written, writeReference]
  | case3 rest uncut inductionHypothesis =>
      rw [List.flatMap_cons, inductionHypothesis]
      rfl
  | case4 c rest plain inductionHypothesis =>
      rw [List.flatMap_cons, inductionHypothesis]
      rfl

section

variable {params : List (String × String)}

/-- The characters of a text with its references filled in with escaped values. -/
def filled (params : List (String × String)) (chars : List Char) : List Char :=
  (pieces chars).flatMap (Piece.fill params Percent.encode)

theorem filled_eq_filledWith (chars : List Char) :
    filled params chars = filledWith params Percent.encode chars :=
  rfl

/-- Captured text brings no special character into a text that it is filled into. -/
theorem not_mem_filled {c : Char} (unmarked : c ≠ '%') (special : c.isAlphanum = false)
    {chars : List Char} (absent : c ∉ chars) : c ∉ filled params chars := by
  intro member
  obtain ⟨piece, held, inside⟩ := List.mem_flatMap.mp member
  have unwritten : c ∉ piece.written := by
    rw [← flatMap_written_pieces chars] at absent
    exact fun written => absent (List.mem_flatMap.mpr ⟨piece, held, written⟩)
  cases piece with
  | char other => exact unwritten inside
  | reference name =>
      simp only [Piece.fill] at inside
      split at inside
      · exact Percent.not_mem_encode unmarked special _ inside
      · exact unwritten inside

/-- The closing brace of a reference is no digit, so that the text behind may be looked at alone. -/
theorem isWhole_writeReference_append (name tail : List Char) :
    Percent.isWhole (writeReference name ++ tail) =
      (Percent.isWhole (writeReference name) && Percent.isWhole tail) := by
  have shape : writeReference name ++ tail = ('$' :: '{' :: name) ++ '}' :: tail := by
    rw [writeReference_append]
    rfl
  rw [shape, Percent.isWhole_append_of_stop (by decide) (by decide)]
  rfl

/-- Digits that stand in front of a text stand there still when it is filled in, and if two digits
follow every `%` they do so still. -/
theorem filled_keeps (chars : List Char) :
    (∀ count, Percent.leadsDigits count chars = true →
      Percent.leadsDigits count (filled params chars) = true) ∧
      (Percent.isWhole chars = true → Percent.isWhole (filled params chars) = true) := by
  rw [filled_eq_filledWith]
  induction chars using template_induction with
  | done =>
      rw [filledWith_nil]
      exact ⟨fun _ leads => leads, fun whole => whole⟩
  | plain c rest unreferenced inductionHypothesis =>
      rw [filledWith_cons unreferenced]
      refine ⟨?_, ?_⟩
      · intro count leads
        cases count with
        | zero => rfl
        | succ count =>
            rw [Percent.leadsDigits, Bool.and_eq_true] at leads ⊢
            exact ⟨leads.1, inductionHypothesis.1 count leads.2⟩
      · intro whole
        rw [Percent.isWhole, Bool.and_eq_true, Bool.or_eq_true] at whole ⊢
        exact ⟨whole.1.imp_right (inductionHypothesis.1 2), inductionHypothesis.2 whole.2⟩
  | reference name after closed inductionHypothesis =>
      refine ⟨?_, ?_⟩
      · intro count leads
        cases count with
        | zero => rfl
        | succ count =>
            rw [writeReference_append] at leads
            cases leads
      · intro whole
        rw [isWhole_writeReference_append, Bool.and_eq_true] at whole
        have behind := inductionHypothesis.2 whole.2
        cases found : params.lookup (String.ofList name) with
        | some value =>
            rw [filledWith_of_known closed found, Percent.isWhole_encode]
            exact behind
        | none =>
            rw [filledWith_of_unknown closed found, isWhole_writeReference_append, whole.1, behind]
            rfl

end

/-! ## Rewriting -/

theorem toList_of_rawQuery {destination : Destination} {params : List (String × String)}
    {raw : String} (asked : destination.rawQuery params = some raw) :
    ∃ query, destination.query = some query ∧ raw.toList = filled params query.toList := by
  obtain ⟨query, held, rfl⟩ := Option.map_eq_some_iff.mp asked
  refine ⟨query, held, ?_⟩
  unfold fillTemplate filled
  rw [String.toList_ofList]

namespace RewriteTable

variable {table : RewriteTable}

/-- What the rewriting of a target comes to is decided by the reading of the query that is filled
in for it. -/
theorem result_rewrite_eq_error_iff (target : Target) (error : RequestError) :
    (table.rewrite target).result = .error error ↔
      target.isAsterisk = false ∧ ∃ found raw, table.rules.find? target.edgePath = some found ∧
        found.value.rawQuery found.params = some raw ∧ target.query.extend raw = .error error := by
  unfold rewrite
  cases target.isAsterisk with
  | true => simp
  | false =>
      rw [if_neg (by decide)]
      cases table.rules.find? target.edgePath with
      | none => simp
      | some found =>
          simp only
          cases asked : found.value.rawQuery found.params with
          | none => simp [asked]
          | some raw =>
              cases read : target.query.extend raw with
              | error refused => simp [asked, read]
              | ok query => simp [asked, read]

/-- Rewriting changes nothing but the routing path and the query. -/
theorem kept_rewrite (table : RewriteTable) (target : Target) :
    (table.rewrite target).target.edgePath = target.edgePath ∧
      (table.rewrite target).target.rawPath = target.rawPath ∧
      (table.rewrite target).target.pathParams = target.pathParams ∧
      (table.rewrite target).target.isAsterisk = target.isAsterisk := by
  unfold rewrite
  split
  · exact ⟨rfl, rfl, rfl, rfl⟩
  · split
    · exact ⟨rfl, rfl, rfl, rfl⟩
    · simp only
      split
      · exact ⟨rfl, rfl, rfl, rfl⟩
      · split
        · exact ⟨rfl, rfl, rfl, rfl⟩
        · exact ⟨rfl, rfl, rfl, rfl⟩

/-- Rewriting leaves a target the path that it arrived with, by which it is rewritten. -/
theorem arrival_rewrite (table : RewriteTable) (target : Target) :
    (table.rewrite target).target.edgePath = target.edgePath ∧
      (table.rewrite target).target.isAsterisk = target.isAsterisk := by
  obtain ⟨sameArrival, _, _, sameAsterisk⟩ := kept_rewrite table target
  exact ⟨sameArrival, sameAsterisk⟩

section

variable {contents : String}

/-- The check of a file leaves no `?` that the reading could refuse, so all depends on escapes. -/
theorem error_iff_of_parse (loaded : parse contents = .ok table) (target : Target)
    (error : RequestError) :
    (table.rewrite target).result = .error error ↔
      target.isAsterisk = false ∧ ∃ found raw, table.rules.find? target.edgePath = some found ∧
        found.value.rawQuery found.params = some raw ∧
          Percent.isWhole raw.toList = false ∧ error = .invalidQuery raw := by
  rw [result_rewrite_eq_error_iff]
  refine and_congr_right fun _ => exists_congr fun found => exists_congr fun raw => ?_
  refine and_congr_right fun search => and_congr_right fun asked => ?_
  have plain : '?' ∉ raw.toList := by
    obtain ⟨query, held, shape⟩ := toList_of_rawQuery asked
    rw [shape]
    exact not_mem_filled (by decide) (by decide)
      (plain_query_of_mem_rulesOf (mem_rulesOf_of_find? loaded search) held).1
  rw [Query.extend_eq_error_iff]
  simp only [plain, false_or]

theorem ok_of_whole (loaded : parse contents = .ok table)
    (whole : ∀ rule ∈ rulesOf contents, ∀ query, rule.2.query = some query →
      Percent.isWhole query.toList = true) (target : Target) :
    ∃ rewritten, (table.rewrite target).result = .ok rewritten := by
  cases result : (table.rewrite target).result with
  | ok rewritten => exact ⟨rewritten, rfl⟩
  | error error =>
      obtain ⟨_, found, raw, search, asked, torn, _⟩ :=
        (error_iff_of_parse loaded target error).mp result
      obtain ⟨query, held, shape⟩ := toList_of_rawQuery asked
      have kept := whole _ (mem_rulesOf_of_find? loaded search) query held
      rw [shape, (filled_keeps query.toList).2 kept] at torn
      cases torn

/-- **When a rewrite fails.** With the table of a file that loads, the rewriting of a target fails
exactly if a rule is found for the path that it arrived with, and the query that is filled in holds
a `%` without two hexadecimal digits behind it; the error is about that query. It makes no
difference what the target has been rewritten to before. If every `%` in the queries of the file
has two digits behind it, no target fails, whatever is filled in. -/
theorem rewrite_fails_iff (loaded : parse contents = .ok table) :
    (∀ target error, (table.rewrite target).result = .error error ↔
      target.isAsterisk = false ∧ ∃ found raw, table.rules.find? target.edgePath = some found ∧
        found.value.rawQuery found.params = some raw ∧
          (∃ front rest, raw.toList = front ++ '%' :: rest ∧
            Percent.leadsDigits 2 rest = false) ∧ error = .invalidQuery raw) ∧
      (∀ target error (earlier : RewriteTable),
        (table.rewrite (earlier.rewrite target).target).result = .error error ↔
          (table.rewrite target).result = .error error) ∧
      ((∀ rule ∈ rulesOf contents, ∀ query, rule.2.query = some query →
        Percent.isWhole query.toList = true) →
          ∀ target, ∃ rewritten, (table.rewrite target).result = .ok rewritten) := by
  refine ⟨?_, ?_, ok_of_whole loaded⟩
  · intro target error
    simp only [error_iff_of_parse loaded, Percent.isWhole_eq_false_iff]
  · intro target error earlier
    obtain ⟨sameArrival, sameAsterisk⟩ := arrival_rewrite earlier target
    rw [error_iff_of_parse loaded, error_iff_of_parse loaded, sameArrival, sameAsterisk]

end

/-- Next to a reference, what is filled in decides. -/
example : (parse "/s/${x} /b?y=%${x}").map (fun table =>
    ["/s/41", "/s/zz"].map fun raw =>
      (Target.parse raw).map fun target => (table.rewrite target).result) =
    .ok [.ok (.ok true), .ok (.error (.invalidQuery "y=%zz"))] := by
  decide +kernel

/-- A rule file whose queries hold whole escapes, one of them next to a reference. -/
def wholeFile : String :=
  "/a /b?x=%41 # escaped\n/c/${name} /d?y=${name}%2F"

theorem rulesOf_wholeFile : rulesOf wholeFile =
    [(⟨[.literal "a"]⟩, ⟨"/b?x=%41", ["b"], some "x=%41"⟩),
      (⟨[.literal "c", .dynamic "name" "" ""]⟩,
        ⟨"/d?y=${name}%2F", ["d"], some "y=${name}%2F"⟩)] := by
  decide +kernel

theorem rewrite_fails_iff_wholeFile :
    ∃ table, parse wholeFile = .ok table ∧
      ∀ target, ∃ rewritten, (table.rewrite target).result = .ok rewritten := by
  have loads : (parse wholeFile).isOk = true := by decide +kernel
  cases loaded : parse wholeFile with
  | error error =>
      rw [loaded] at loads
      cases loads
  | ok table =>
      refine ⟨table, rfl, (rewrite_fails_iff loaded).2.2 ?_⟩
      rw [rulesOf_wholeFile]
      decide +kernel

/-- A file that loads although its query holds a torn escape, with a target that fails by it. -/
theorem rewrite_fails_torn :
    ∃ table target, parse "/a /b?x=%zz" = .ok table ∧ Target.parse "/a" = .ok target ∧
      (table.rewrite target).result = .error (.invalidQuery "x=%zz") := by
  have run : (parse "/a /b?x=%zz").map (fun table =>
      (Target.parse "/a").map fun target => (table.rewrite target).result) =
        .ok (.ok (.error (.invalidQuery "x=%zz"))) := by
    decide +kernel
  cases loaded : parse "/a /b?x=%zz" with
  | error error =>
      rw [loaded] at run
      cases run
  | ok table =>
      cases read : Target.parse "/a" with
      | error error =>
          rw [loaded, read] at run
          cases run
      | ok target =>
          rw [loaded, read] at run
          exact ⟨table, target, rfl, rfl, Except.ok.inj (Except.ok.inj run)⟩

end RewriteTable

end HttpService.Routing
