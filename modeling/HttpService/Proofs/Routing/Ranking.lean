import HttpService.Proofs.Routing.Registry

/-!
Contract: comparing entries is comparing ranks.

Owns:
- the matcher of a pattern in terms of the counts of its segments;
- the entry of a registration, and the comparison of two such entries;
- the best of some entries as the registration of least rank;
- what a matcher extracts from a path that its pattern covers.

Does not own: which entries are compared in a search.
-/

namespace HttpService.Routing

/-! ## Matchers -/

theorem length_capturesFrom (segments : List Segment) (index : Nat) :
    (capturesFrom index segments).length = segments.countP Segment.isDynamic := by
  induction segments generalizing index with
  | nil => rfl
  | cons segment rest inductionHypothesis =>
      cases segment with
      | literal text =>
          rw [capturesFrom, inductionHypothesis, List.countP_cons_of_neg (by simp [Segment.isDynamic])]
      | dynamic name opening closing =>
          rw [capturesFrom, List.length_cons, inductionHypothesis,
            List.countP_cons_of_pos (by rfl)]

theorem head_capturesFrom {segments : List Segment} {index first : Nat} {name : String}
    {rest : List (Nat × String)} (captures : capturesFrom index segments = (first, name) :: rest) :
    first = index + segments.findIdx Segment.isDynamic := by
  induction segments generalizing index with
  | nil => cases captures
  | cons segment tail inductionHypothesis =>
      cases segment with
      | literal text =>
          rw [capturesFrom] at captures
          rw [inductionHypothesis captures, List.findIdx_cons]
          show index + 1 + tail.findIdx Segment.isDynamic =
            index + (tail.findIdx Segment.isDynamic + 1)
          omega
      | dynamic name opening closing =>
          rw [capturesFrom, List.cons.injEq, Prod.mk.injEq] at captures
          rw [← captures.1.1, List.findIdx_cons]
          rfl

theorem isStatic_iff (pattern : Pattern) :
    pattern.isStatic = true ↔ pattern.dynamicCount = 0 := by
  simp [Pattern.isStatic, Pattern.dynamicCount, List.countP_eq_zero]

theorem constraintCount_of_isStatic {pattern : Pattern} (static : pattern.isStatic = true) :
    pattern.constraintCount = 0 := by
  have literals := List.all_eq_true.mp static
  unfold Pattern.constraintCount
  generalize pattern.segments = segments at literals ⊢
  induction segments with
  | nil => rfl
  | cons segment rest inductionHypothesis =>
      rw [List.foldr_cons, inductionHypothesis fun other member =>
        literals other (List.mem_cons_of_mem segment member)]
      cases segment with
      | literal text => rfl
      | dynamic name opening closing =>
          have literal := literals (.dynamic name opening closing) (by simp)
          cases literal

theorem firstDynamic_of_isStatic {pattern : Pattern} (static : pattern.isStatic = true) :
    pattern.firstDynamic = pattern.segments.length := by
  apply List.findIdx_eq_length_of_false
  simpa [Pattern.isStatic] using static

theorem ofPattern?_eq (pattern : Pattern) :
    Matcher.ofPattern? pattern =
      if pattern.isStatic = true then none
      else some ⟨capturesFrom 0 pattern.segments, pattern.dynamicCount, pattern.firstDynamic,
        pattern.constraintCount⟩ := by
  have count := length_capturesFrom pattern.segments 0
  unfold Matcher.ofPattern?
  cases captures : capturesFrom 0 pattern.segments with
  | nil =>
      rw [captures] at count
      rw [if_pos ((isStatic_iff pattern).mpr count.symm)]
  | cons head rest =>
      obtain ⟨first, name⟩ := head
      rw [captures, List.length_cons] at count
      have moving : ¬ pattern.isStatic = true := by
        rw [isStatic_iff]
        exact fun zero => absurd (count.trans zero) (Nat.succ_ne_zero _)
      rw [if_neg moving, head_capturesFrom captures, Nat.zero_add]
      show some _ = some _
      rw [count]
      rfl

/-! ## Comparison -/

/-- The registration that an entry stands for. -/
def Entry.registration {α : Type} (entry : Entry α) : Registration α :=
  ⟨entry.pattern, entry.value, entry.place⟩

namespace Registration

variable {α : Type}

/-- The entry that stands for a registration. -/
def entry (registration : Registration α) : Entry α :=
  ⟨registration.value, registration.pattern, Matcher.ofPattern? registration.pattern,
    registration.place⟩

/-- Between patterns of one length the comparison of entries is that of ranks. -/
theorem compare_entry_eq_lt_iff {left right : Registration α}
    (sameLength : left.pattern.segments.length = right.pattern.segments.length) :
    left.entry.compare right.entry = .lt ↔ left.rank < right.rank := by
  unfold Entry.compare entry rank
  rw [ofPattern?_eq, ofPattern?_eq]
  by_cases leftStatic : left.pattern.isStatic = true
  · by_cases rightStatic : right.pattern.isStatic = true
    · simp [leftStatic, rightStatic, (isStatic_iff _).mp leftStatic,
        (isStatic_iff _).mp rightStatic, constraintCount_of_isStatic leftStatic,
        constraintCount_of_isStatic rightStatic, firstDynamic_of_isStatic leftStatic,
        firstDynamic_of_isStatic rightStatic, sameLength, Prod.Lex.toLex_lt_toLex,
        Nat.compare_eq_lt]
    · simp [leftStatic, rightStatic, Prod.Lex.toLex_lt_toLex]
  · by_cases rightStatic : right.pattern.isStatic = true
    · simp [leftStatic, rightStatic, Prod.Lex.toLex_lt_toLex]
    · simp [leftStatic, rightStatic, Matcher.compare, Ordering.then_eq_lt,
        Prod.Lex.toLex_lt_toLex, Nat.compare_eq_lt]
      omega

/-- **The best entry belongs to the registration of least rank.** -/
theorem best?_map_entry {held : List (Registration α)} {length : Nat}
    (sameLength : ∀ registration ∈ held, registration.pattern.segments.length = length) :
    best? (held.map entry) = (held.argmin rank).map entry := by
  cases held with
  | nil => rfl
  | cons first rest =>
      have firstLength := sameLength first (by simp)
      have restLength := fun registration member =>
        sameLength registration (List.mem_cons_of_mem first member)
      show some (List.foldl _ first.entry (rest.map entry)) =
        (rest.foldl (List.argAux fun left right => left.rank < right.rank) (some first)).map entry
      clear sameLength
      induction rest generalizing first with
      | nil => rfl
      | cons next rest inductionHypothesis =>
          have nextLength := restLength next (by simp)
          have tailLength := fun registration member =>
            restLength registration (List.mem_cons_of_mem next member)
          have compared := compare_entry_eq_lt_iff (nextLength.trans firstLength.symm)
          rw [List.map_cons, List.foldl_cons, List.foldl_cons]
          by_cases better : next.rank < first.rank
          · rw [if_pos (compared.mpr better)]
            show _ = (List.foldl _ (if next.rank < first.rank then some next else some first)
              rest).map entry
            rw [if_pos better]
            exact inductionHypothesis next nextLength tailLength
          · rw [if_neg fun less => better (compared.mp less)]
            show _ = (List.foldl _ (if next.rank < first.rank then some next else some first)
              rest).map entry
            rw [if_neg better]
            exact inductionHypothesis first firstLength tailLength

/-- A change of all registrations that keeps their order keeps the best one. -/
theorem argmin_map_rank {change : Registration α → Registration α}
    (keeps : ∀ left right : Registration α,
      (change left).rank < (change right).rank ↔ left.rank < right.rank)
    (held : List (Registration α)) :
    (held.map change).argmin rank = (held.argmin rank).map change := by
  induction held using List.reverseRecOn with
  | nil => rfl
  | append_singleton earlier last inductionHypothesis =>
      rw [List.map_append, List.map_singleton, List.argmin_concat, List.argmin_concat,
        inductionHypothesis]
      cases earlier.argmin rank with
      | none => rfl
      | some best =>
          simp only [Option.map_some, keeps]
          split
          · rfl
          · rfl

theorem argmin_rank_congr {left right : List (Registration α)}
    (sameMembers : ∀ registration, registration ∈ left ↔ registration ∈ right)
    (distinct : ∀ first ∈ left, ∀ second ∈ left, first.rank = second.rank → first = second) :
    left.argmin rank = right.argmin rank := by
  cases found : left.argmin rank with
  | none =>
      have leftEmpty : left = [] := List.argmin_eq_none.mp found
      subst leftEmpty
      have rightEmpty : right = [] :=
        List.eq_nil_iff_forall_not_mem.mpr fun registration member =>
          List.not_mem_nil ((sameMembers registration).mpr member)
      rw [rightEmpty, List.argmin_nil]
  | some best =>
      have member : best ∈ left := List.argmin_mem found
      cases other : right.argmin rank with
      | none =>
          have rightEmpty : right = [] := List.argmin_eq_none.mp other
          rw [rightEmpty] at sameMembers
          exact absurd ((sameMembers best).mp member) List.not_mem_nil
      | some candidate =>
          have candidateMember : candidate ∈ left :=
            (sameMembers candidate).mpr (List.argmin_mem other)
          have atMost : best.rank ≤ candidate.rank := List.le_of_mem_argmin candidateMember found
          have atLeast : candidate.rank ≤ best.rank :=
            List.le_of_mem_argmin ((sameMembers best).mp member) other
          rw [distinct best member candidate candidateMember (le_antisymm atMost atLeast)]

end Registration

/-! ## Captures -/

theorem extract_capturesFrom (lead : List String) {segments : List Segment} {path : List String}
    (accepted : Key.acceptAll (segments.map Segment.key) path = true) :
    (capturesFrom lead.length segments).filterMap (fun (index, name) =>
      (lead ++ path)[index]?.map fun segment => (name, segment)) =
      Segment.capture segments path := by
  induction segments generalizing path lead with
  | nil => rfl
  | cons segment rest inductionHypothesis =>
      cases path with
      | nil => cases accepted
      | cons text path =>
          rw [List.map_cons, Key.acceptAll, Bool.and_eq_true] at accepted
          have tail := inductionHypothesis (lead ++ [text]) accepted.2
          rw [List.length_append, List.length_singleton, List.append_assoc,
            List.singleton_append] at tail
          cases segment with
          | literal exact => exact tail
          | dynamic name opening closing =>
              have here : (lead ++ text :: path)[lead.length]? = some text := by
                rw [List.getElem?_append_right (Nat.le_refl _), Nat.sub_self]
                rfl
              rw [capturesFrom, List.filterMap_cons, tail]
              simp only [here]
              rfl

/-- What the matcher of a pattern extracts from a path that the pattern covers. -/
theorem extract_ofPattern? {pattern : Pattern} {path : List String}
    (covered : pattern.covers path = true) :
    ((Matcher.ofPattern? pattern).map (·.extract path)).getD [] =
      Segment.capture pattern.segments path := by
  have extracted := extract_capturesFrom [] covered
  rw [ofPattern?_eq]
  by_cases static : pattern.isStatic = true
  · have none : capturesFrom 0 pattern.segments = [] := by
      apply List.eq_nil_of_length_eq_zero
      rw [length_capturesFrom]
      exact (isStatic_iff pattern).mp static
    rw [List.length_nil, none] at extracted
    rw [if_pos static]
    exact extracted
  · rw [if_neg static]
    exact extracted

end HttpService.Routing
