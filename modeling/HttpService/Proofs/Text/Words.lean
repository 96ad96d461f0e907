import HttpService.Proofs.Text.Trim

/-!
Contract: the words of a text, which stand between runs of white space.

Owns:
- words and gaps, and the words of texts that are put together from them;
- what a text looks like whose first word is known;
- **that a trimmed text has two words exactly if it is two words with a gap between them**.

Does not own: what the words mean.
-/

namespace HttpService.Text

/-- A text that is not empty and holds no white space. -/
structure Unspaced (text : List Char) : Prop where
  filled : text ≠ []
  solid : ∀ c ∈ text, isBlank c = false

/-- A text that is two words with white space between them. -/
def TwoWords (text first second : List Char) : Prop :=
  Unspaced first ∧ Unspaced second ∧
    ∃ gap, gap ≠ [] ∧ (∀ c ∈ gap, isBlank c = true) ∧ text = first ++ gap ++ second

/-! ## Words and gaps -/

theorem blankSeparated_append_cons {c : Char} (blank : isBlank c = true) (front rest : List Char) :
    blankSeparated (front ++ c :: rest) = blankSeparated front ++ blankSeparated rest := by
  unfold blankSeparated
  rw [List.splitOnP_append_cons front rest blank, List.filter_append]

theorem blankSeparated_cons {c : Char} (blank : isBlank c = true) (rest : List Char) :
    blankSeparated (c :: rest) = blankSeparated rest :=
  blankSeparated_append_cons blank [] rest

theorem Unspaced.blankSeparated_eq {word : List Char} (unspaced : Unspaced word) :
    blankSeparated word = [word] := by
  unfold blankSeparated
  rw [List.splitOnP_eq_singleton unspaced.solid]
  exact List.filter_cons_of_pos (by simpa using unspaced.filled)

theorem blankSeparated_gap {gap : List Char} (blank : ∀ c ∈ gap, isBlank c = true)
    (rest : List Char) : blankSeparated (gap ++ rest) = blankSeparated rest := by
  induction gap with
  | nil => rfl
  | cons c gap inductionHypothesis =>
      rw [List.cons_append, blankSeparated_cons (blank c List.mem_cons_self),
        inductionHypothesis fun other member => blank other (List.mem_cons_of_mem c member)]

/-- A text is empty, or starts with white space, or with a word that white space or nothing follows. -/
theorem word_induction {motive : List Char → Prop} (done : motive [])
    (blank : ∀ c rest, isBlank c = true → motive rest → motive (c :: rest))
    (last : ∀ word, Unspaced word → motive word)
    (word : ∀ word c rest, Unspaced word → isBlank c = true → motive rest →
      motive (word ++ c :: rest)) (text : List Char) : motive text := by
  induction bound : text.length using Nat.strongRecOn generalizing text with
  | ind length inductionHypothesis =>
      subst bound
      cases text with
      | nil => exact done
      | cons c rest =>
          cases space : isBlank c with
          | true => exact blank c rest space (inductionHypothesis rest.length (by simp) rest rfl)
          | false =>
              have shape := List.takeWhile_append_dropWhile (p := fun c => !isBlank c) (l := c :: rest)
              have solid : Unspaced ((c :: rest).takeWhile fun c => !isBlank c) := by
                refine ⟨by simp [space], fun other member => ?_⟩
                simpa using List.all_eq_true.mp List.all_takeWhile other member
              rw [← shape]
              cases behind : (c :: rest).dropWhile fun c => !isBlank c with
              | nil => exact (List.append_nil _).symm ▸ last _ solid
              | cons next further =>
                  have stopped := List.head?_dropWhile_not (fun c => !isBlank c) (c :: rest)
                  rw [behind] at stopped
                  have shorter := congrArg List.length shape
                  rw [behind, List.length_append, List.length_cons] at shorter
                  exact word _ next further solid (by simpa using stopped)
                    (inductionHypothesis further.length (by omega) further rfl)

theorem blankSeparated_eq_nil {text : List Char} (none : blankSeparated text = []) :
    ∀ c ∈ text, isBlank c = true := by
  induction text using word_induction with
  | done => simp
  | blank c rest space inductionHypothesis =>
      rw [blankSeparated_cons space] at none
      exact List.forall_mem_cons.mpr ⟨space, inductionHypothesis none⟩
  | last word unspaced =>
      rw [unspaced.blankSeparated_eq] at none
      cases none
  | word word c rest unspaced space =>
      rw [blankSeparated_append_cons space, unspaced.blankSeparated_eq] at none
      cases none

/-- Around its first word, a text has white space in front and white space or nothing behind. -/
theorem exists_of_blankSeparated {text first : List Char} {words : List (List Char)}
    (separated : blankSeparated text = first :: words) :
    Unspaced first ∧ ∃ lead rest, text = lead ++ (first ++ rest) ∧ (∀ c ∈ lead, isBlank c = true) ∧
      (∀ c, rest.head? = some c → isBlank c = true) ∧ blankSeparated rest = words := by
  induction text using word_induction with
  | done => cases separated
  | blank c rest space inductionHypothesis =>
      rw [blankSeparated_cons space] at separated
      obtain ⟨unspaced, lead, behind, rfl, blank, follows, others⟩ := inductionHypothesis separated
      exact ⟨unspaced, c :: lead, behind, rfl, List.forall_mem_cons.mpr ⟨space, blank⟩, follows,
        others⟩
  | last word unspaced =>
      rw [unspaced.blankSeparated_eq] at separated
      cases separated
      exact ⟨unspaced, [], [], (List.append_nil _).symm, by simp, by simp, rfl⟩
  | word word c rest unspaced space _ =>
      rw [blankSeparated_append_cons space, unspaced.blankSeparated_eq] at separated
      cases separated
      refine ⟨unspaced, [], c :: rest, rfl, by simp, ?_, blankSeparated_cons space rest⟩
      rintro other ⟨⟩
      exact space

theorem TwoWords.blankSeparated_eq {text first second : List Char}
    (words : TwoWords text first second) : blankSeparated text = [first, second] := by
  obtain ⟨unspaced, unspacedSecond, gap, someGap, blankGap, rfl⟩ := words
  obtain ⟨c, rest, rfl⟩ := List.exists_cons_of_ne_nil someGap
  obtain ⟨space, blankRest⟩ := List.forall_mem_cons.mp blankGap
  rw [List.append_assoc, List.cons_append, blankSeparated_append_cons space,
    blankSeparated_gap blankRest, unspaced.blankSeparated_eq, unspacedSecond.blankSeparated_eq]
  rfl

theorem TwoWords.ne_nil {text first second : List Char} (words : TwoWords text first second) :
    text ≠ [] := by
  obtain ⟨unspaced, -, gap, -, -, rfl⟩ := words
  simp [unspaced.filled]

theorem TwoWords.unique {text first second other further : List Char}
    (words : TwoWords text first second) (same : TwoWords text other further) :
    first = other ∧ second = further := by
  have separated := words.blankSeparated_eq
  rw [same.blankSeparated_eq] at separated
  cases separated
  exact ⟨rfl, rfl⟩

/-- **A trimmed text has two words exactly if it is two words with a gap between them.** -/
theorem blankSeparated_trim_eq_pair_iff {chars first second : List Char} :
    blankSeparated (trim chars) = [first, second] ↔ TwoWords (trim chars) first second := by
  obtain ⟨opens, closes⟩ := ends_of_trim_eq_self (trim_trim chars)
  constructor
  · intro separated
    obtain ⟨unspaced, lead, rest, shape, blankLead, follows, further⟩ :=
      exists_of_blankSeparated separated
    obtain ⟨unspacedSecond, gap, trail, rfl, blankGap, -, none⟩ := exists_of_blankSeparated further
    have blankTrail := blankSeparated_eq_nil none
    have noLead : lead = [] := by
      rcases lead with _ | ⟨c, lead⟩
      · rfl
      · have first := opens c (by rw [shape]; rfl)
        rw [blankLead c List.mem_cons_self] at first
        cases first
    have noTrail : trail = [] := by
      cases ended : trail.getLast? with
      | none => exact List.getLast?_eq_none_iff.mp ended
      | some c =>
          have last := closes c (by rw [shape]; simp [ended])
          rw [blankTrail c (List.mem_of_getLast? ended)] at last
          cases last
    have someGap : gap ≠ [] := by
      rintro rfl
      obtain ⟨c, word, rfl⟩ := List.exists_cons_of_ne_nil unspacedSecond.filled
      have solid := unspacedSecond.solid c List.mem_cons_self
      rw [follows c rfl] at solid
      cases solid
    subst noLead noTrail
    exact ⟨unspaced, unspacedSecond, gap, someGap, blankGap, by simpa using shape⟩
  · exact TwoWords.blankSeparated_eq

end HttpService.Text
