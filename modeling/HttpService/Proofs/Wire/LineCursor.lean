import HttpService.Proofs.Wire.Lines

/-!
Contract: reading an input line by line from places in it.

Owns:
- the place between what has been read of an input and what is left, and the one behind its end;
- where the search for CR LF stops, and what a call of the reader gives at each place;
- the calls of a reader up to its end;
- **that these calls part an input into its lines**, and where each of them leaves the reader.

Does not own: what is read from the lines.
-/

namespace HttpService.Wire

/-! ## The search for CR LF -/

theorem crlfFrom?_pair (front rest : Bytes) :
    crlfFrom? (front ++ crlf ++ rest).toArray front.length = some front.length := by
  have inside : front.length + 1 < (front ++ crlf ++ rest).toArray.size := by simp [crlf]
  rw [crlfFrom?, dif_pos inside, if_pos]
  simp [crlf]

theorem crlfFrom?_cons {front rest : Bytes} {first : UInt8}
    (apart : ¬ (first = cr ∧ rest.head? = some lf)) :
    crlfFrom? (front ++ first :: rest).toArray front.length =
      crlfFrom? (front ++ [first] ++ rest).toArray (front.length + 1) := by
  rw [List.append_assoc, List.singleton_append]
  cases rest with
  | nil => rw [crlfFrom?, dif_neg (by simp), crlfFrom?, dif_neg (by simp)]
  | cons second tail =>
      have inside : front.length + 1 < (front ++ first :: second :: tail).toArray.size := by simp
      rw [crlfFrom?, dif_pos inside, if_neg]
      simpa [List.getElem_append_right] using apart

theorem crlfFrom?_line (rest : Bytes) : ∀ {line : Bytes} (front : Bytes), Unbroken line →
    crlfFrom? (front ++ (line ++ crlf ++ rest)).toArray front.length =
      some (front.length + line.length)
  | [], front, _ => by
      rw [List.nil_append, ← List.append_assoc]
      exact crlfFrom?_pair front rest
  | first :: line, front, unbroken => by
      have apart : ¬ (first = cr ∧ (line ++ crlf ++ rest).head? = some lf) := by
        rintro ⟨isCr, second⟩
        obtain ⟨tail, shape⟩ := List.head?_eq_some_iff.mp second
        exact not_pair_of_unbroken rest unbroken lf tail shape ⟨isCr, rfl⟩
      have further := crlfFrom?_line rest (front ++ [first]) unbroken.tail
      rw [List.length_append, List.length_singleton] at further
      show crlfFrom? (front ++ first :: (line ++ crlf ++ rest)).toArray front.length = _
      rw [crlfFrom?_cons apart, further, List.length_cons]
      congr 1
      omega

theorem crlfFrom?_unbroken : ∀ {last : Bytes} (front : Bytes), Unbroken last →
    crlfFrom? (front ++ last).toArray front.length = none
  | [], front, _ => by rw [crlfFrom?, dif_neg (by simp)]
  | first :: last, front, unbroken => by
      have apart : ¬ (first = cr ∧ last.head? = some lf) := by
        rintro ⟨isCr, second⟩
        obtain ⟨tail, rfl⟩ := List.head?_eq_some_iff.mp second
        exact unbroken.not_pair ⟨isCr, rfl⟩
      have further := crlfFrom?_unbroken (front ++ [first]) unbroken.tail
      rw [List.length_append, List.length_singleton] at further
      rw [crlfFrom?_cons apart, further]

namespace LineCursor

/-! ## Places -/

/-- The place between what has been read of an input and what is left. -/
def between (front rest : Bytes) : LineCursor :=
  ⟨(front ++ rest).toArray, front.length⟩

/-- The place behind the last line of an input. -/
def past (input : Bytes) : LineCursor :=
  ⟨input.toArray, input.length + 1⟩

theorem offset_between (front rest : Bytes) : (between front rest).offset = front.length := by
  simp [offset, between]

theorem offset_past (input : Bytes) : (past input).offset = input.length := by
  simp [offset, past]

theorem next_line (front : Bytes) {line : Bytes} (rest : Bytes) (unbroken : Unbroken line) :
    (between front (line ++ crlf ++ rest)).next =
      (some line, between (front ++ line ++ crlf) rest) := by
  have search := crlfFrom?_line rest front unbroken
  have read : (between front (line ++ crlf ++ rest)).upTo (front.length + line.length) = line := by
    simp [upTo, between]
  have moved : (between front (line ++ crlf ++ rest)).moveTo (front.length + line.length + 2) =
      between (front ++ line ++ crlf) rest := by
    simp [moveTo, between, crlf, Nat.add_assoc]
  change crlfFrom? (between front (line ++ crlf ++ rest)).input
    (between front (line ++ crlf ++ rest)).position = _ at search
  unfold next
  rw [if_neg (by simp [between])]
  simp only [search, read, moved]

theorem next_last (front : Bytes) {last : Bytes} (unbroken : Unbroken last) :
    (between front last).next = (some last, past (front ++ last)) := by
  have search := crlfFrom?_unbroken front unbroken
  have read : (between front last).upTo (between front last).input.size = last := by
    simp [upTo, between]
  have moved : (between front last).moveTo ((between front last).input.size + 1) =
      past (front ++ last) := by
    simp [moveTo, between, past]
  change crlfFrom? (between front last).input (between front last).position = _ at search
  unfold next
  rw [if_neg (by simp [between])]
  simp only [search, read, moved]

/-- Behind the end nothing is read, and the reader stays where it is. -/
theorem next_past (input : Bytes) : (past input).next = (none, past input) := by
  unfold next
  rw [if_pos]
  simp [past]

/-! ## Calls up to the end -/

/-- The calls of a reader up to its end: the line that each of them yields, and where it leaves
the reader. At the end the reader stays where it is. -/
inductive Drains : LineCursor → List (Bytes × LineCursor) → Prop where
  | nil {cursor : LineCursor} (ended : cursor.next = (none, cursor)) : Drains cursor []
  | cons {cursor behind : LineCursor} {line : Bytes} {calls : List (Bytes × LineCursor)}
      (read : cursor.next = (some line, behind)) (further : Drains behind calls) :
      Drains cursor ((line, behind) :: calls)

theorem Drains.unique {cursor : LineCursor} {calls others : List (Bytes × LineCursor)}
    (drains : Drains cursor calls) (again : Drains cursor others) : others = calls := by
  induction drains generalizing others with
  | nil ended =>
      cases again with
      | nil => rfl
      | cons read =>
          rw [ended] at read
          cases read
  | cons read _ inductionHypothesis =>
      cases again with
      | nil ended =>
          rw [read] at ended
          cases ended
      | cons readAgain further =>
          rw [read] at readAgain
          cases readAgain
          rw [inductionHypothesis further]

/-- Lines, each with the CR LF that ends it. -/
def ended (lines : List Bytes) : Bytes :=
  lines.flatMap (· ++ crlf)

/-- How calls part what is left of an input behind `front`. -/
structure Parts (front rest : Bytes) (calls : List (Bytes × LineCursor)) : Prop where
  unbroken : ∀ call ∈ calls, Unbroken call.1
  joined : crlf.intercalate (calls.map Prod.fst) = rest
  counted : calls.length = pairPlaces rest + 1
  placed : ∀ earlier line behind later, calls = earlier ++ (line, behind) :: later →
    behind.offset ≤ (front ++ rest).length ∧
      (front ++ rest).take behind.offset =
        if later = [] then front ++ rest else front ++ ended (earlier.map Prod.fst ++ [line])

theorem parts_last (front : Bytes) {last : Bytes} (unbroken : Unbroken last) :
    Parts front last [(last, past (front ++ last))] := by
  refine ⟨?_, List.intercalate_singleton, ?_, ?_⟩
  · simpa using unbroken
  · rw [← crlfCount_eq_pairPlaces, crlfCount_unbroken unbroken]
    rfl
  · intro earlier line behind later shape
    obtain ⟨rfl, single⟩ | ⟨_, _, more⟩ := List.append_eq_cons_iff.mp shape.symm
    · cases single
      rw [offset_past, if_pos rfl, List.take_length]
      exact ⟨Nat.le_refl _, rfl⟩
    · simp at more

theorem Parts.line {front line rest : Bytes} {calls : List (Bytes × LineCursor)}
    (unbroken : Unbroken line) (parts : Parts (front ++ line ++ crlf) rest calls) :
    Parts front (line ++ crlf ++ rest) ((line, between (front ++ line ++ crlf) rest) :: calls) := by
  have filled : calls ≠ [] := by
    rintro rfl
    exact absurd parts.counted (by simp)
  have whole : front ++ (line ++ crlf ++ rest) = front ++ line ++ crlf ++ rest := by
    simp only [List.append_assoc]
  refine ⟨?_, ?_, ?_, ?_⟩
  · exact List.forall_mem_cons.mpr ⟨unbroken, parts.unbroken⟩
  · rw [List.map_cons, List.intercalate_cons_of_ne_nil (by simpa using filled), parts.joined]
  · rw [List.length_cons, parts.counted, ← crlfCount_eq_pairPlaces, ← crlfCount_eq_pairPlaces,
      crlfCount_line rest unbroken]
  · intro earlier line' behind later shape
    rw [whole]
    cases earlier with
    | nil =>
        cases shape
        rw [offset_between, if_neg filled]
        refine ⟨by simp, ?_⟩
        rw [List.take_left]
        simp [ended]
    | cons call earlier =>
        cases shape
        obtain ⟨inside, taken⟩ := parts.placed earlier line' behind later rfl
        refine ⟨inside, taken.trans ?_⟩
        simp [ended]

/-- From every place the reader comes to its end, and parts what is left on the way. -/
theorem exists_drains (front rest : Bytes) :
    ∃ calls, Drains (between front rest) calls ∧ Parts front rest calls := by
  induction rest using line_induction generalizing front with
  | last bytes unbroken =>
      exact ⟨_, .cons (next_last front unbroken) (.nil (next_past _)), parts_last front unbroken⟩
  | line line rest unbroken inductionHypothesis =>
      obtain ⟨calls, drains, parts⟩ := inductionHypothesis (front ++ line ++ crlf)
      exact ⟨_, .cons (next_line front rest unbroken) drains, parts.line unbroken⟩

/-- **The lines of an input.** The calls of a reader come to an end, and to one only. The lines that
they yield hold no CR LF, give the input when they are joined by it, and are one more than there are
CR LF pairs in the input. The offset stays within the input. After each call the octets in front of
it are the lines so far, each with the CR LF that ended it; after the last line, which none ended,
they are the whole input. -/
theorem parts_into_lines (input : Bytes) :
    ∃ calls, (∀ others, Drains (start input) others ↔ others = calls) ∧
      (∀ call ∈ calls, Unbroken call.1) ∧
      crlf.intercalate (calls.map Prod.fst) = input ∧
      calls.length = crlfCount input + 1 ∧ crlfCount input = pairPlaces input ∧
      (start input).offset = 0 ∧
      ∀ earlier line behind later, calls = earlier ++ (line, behind) :: later →
        behind.offset ≤ input.length ∧
          input.take behind.offset =
            if later = [] then input else ended (earlier.map Prod.fst ++ [line]) := by
  obtain ⟨calls, drains, parts⟩ := exists_drains [] input
  have only : ∀ others, Drains (start input) others ↔ others = calls := by
    intro others
    constructor
    · exact drains.unique
    · rintro rfl
      exact drains
  have paired := crlfCount_eq_pairPlaces input
  have counted := parts.counted
  rw [← paired] at counted
  exact ⟨calls, only, parts.unbroken, parts.joined, counted, paired, offset_between [] input,
    parts.placed⟩

/-- A CR in front of CR LF belongs to the line that the pair ends, and a lone LF to the next one. -/
example : (start [cr, cr, lf, lf, cr, lf]).next =
    (some [cr], between [cr, cr, lf] [lf, cr, lf]) := by
  cbv

end LineCursor

end HttpService.Wire
