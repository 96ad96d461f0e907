import HttpService.Proofs.Wire.HeaderLines

/-!
Contract: which accepted requests hold the empty line that ends a head.

Owns:
- the empty line as CR LF CR LF somewhere in the input;
- that an input cut off behind the CR LF of a header line is read as if the empty line
  followed;
- **the exact condition** under which acceptance shows the empty line.

Does not own: where the head ends when there are several empty lines.
-/

namespace HttpService.Wire

/-- Whether an input holds an empty line behind another line. -/
def Terminated (input : Bytes) : Prop :=
  crlf ++ crlf <:+: input

instance (input : Bytes) : Decidable (Terminated input) :=
  inferInstanceAs (Decidable (crlf ++ crlf <:+: input))

/-- Whether nothing is left to read, or a whole line has just been read. -/
def Stopped (bytes : Bytes) : Prop :=
  bytes = [] ∨ crlf <:+ bytes

theorem Terminated.of_rest {line rest : Bytes} (terminated : Terminated (crlf ++ rest)) :
    Terminated (line ++ crlf ++ rest) := by
  rw [List.append_assoc]
  exact terminated.trans (List.suffix_append line _).isInfix

theorem Stopped.of_rest {line rest : Bytes} (stopped : Stopped rest) :
    crlf <:+ line ++ crlf ++ rest := by
  rcases stopped with rfl | atEnd
  · rw [List.append_nil]
    exact List.suffix_append line crlf
  · exact atEnd.trans (List.suffix_append _ _)

theorem stopped_of_suffix {line rest : Bytes} (atEnd : crlf <:+ line ++ crlf ++ rest) :
    Stopped rest := by
  obtain ⟨front, equal⟩ := atEnd
  rcases List.append_eq_append_iff.mp equal with ⟨overlap, lineEnd, tail⟩ | ⟨middle, _, tail⟩
  · -- the last CR LF overlaps the one behind the line: in full, by one octet, or not at all
    match overlap with
    | [] => exact Or.inr ⟨[], tail⟩
    | [byte] =>
        have isCr : byte = cr := (List.cons.inj tail).1.symm
        have lastOctets := congrArg List.getLast? lineEnd
        rw [List.getLast?_append, List.getLast?_append, isCr] at lastOctets
        have same : lf = cr := Option.some.inj lastOctets
        exact absurd same (by decide)
    | [_, _] =>
        have none : [] = rest := (List.cons.inj (List.cons.inj tail).2).2
        exact Or.inl none.symm
    | _ :: _ :: _ :: _ =>
        have lengths := congrArg List.length tail
        simp only [crlf, List.length_append, List.length_cons, List.length_nil] at lengths
        omega
  · exact Or.inr ⟨middle, tail.symm⟩

/-- Headers end at an empty line, or where the input stops. -/
theorem terminated_or_stopped_of_readHeaders (bytes : Bytes) {headers : Headers}
    {result : Headers × Bytes} (read : readHeaders headers (some bytes) = .ok result) :
    Terminated (crlf ++ bytes) ∨ Stopped bytes := by
  induction bytes using line_induction generalizing headers with
  | last bytes unbroken =>
      by_cases filled : bytes = []
      · exact Or.inr (Or.inl filled)
      · obtain ⟨error, failed⟩ := readHeaders_unended headers unbroken filled
        rw [failed] at read
        cases read
  | line line rest unbroken inductionHypothesis =>
      by_cases filled : line = []
      · subst filled
        exact Or.inl ⟨[], rest, by simp⟩
      · rw [readHeaders_line headers rest unbroken filled] at read
        cases field : readField line with
        | error error =>
            rw [field] at read
            cases read
        | ok field' =>
            rw [field] at read
            rcases inductionHypothesis read with terminated | stopped
            · left
              rw [← List.append_assoc, ← List.append_assoc]
              exact terminated.of_rest
            · exact Or.inr (Or.inr stopped.of_rest)

/-- Where no empty line follows and the input stops, an added empty line changes nothing. -/
theorem readHeaders_append_crlf (bytes : Bytes) (headers : Headers)
    (unterminated : ¬ Terminated (crlf ++ bytes)) (stopped : Stopped bytes) :
    readHeaders headers (some (bytes ++ crlf)) = readHeaders headers (some bytes) := by
  induction bytes using line_induction generalizing headers with
  | last bytes unbroken =>
      have none : bytes = [] := stopped.resolve_right fun atEnd => unbroken atEnd.isInfix
      subst none
      rw [readHeaders_nil]
      exact readHeaders_blank headers []
  | line line rest unbroken inductionHypothesis =>
      have filled : line ≠ [] := by
        rintro rfl
        exact unterminated ⟨[], rest, by simp⟩
      have further : ¬ Terminated (crlf ++ rest) := by
        intro terminated
        apply unterminated
        rw [← List.append_assoc, ← List.append_assoc]
        exact terminated.of_rest
      have atEnd : crlf <:+ line ++ crlf ++ rest := by
        rcases stopped with none | atEnd
        · simp [crlf] at none
        · exact atEnd
      rw [List.append_assoc (line ++ crlf),
        readHeaders_line headers (rest ++ crlf) unbroken filled,
        readHeaders_line headers rest unbroken filled]
      refine congrArg _ (funext fun field => ?_)
      exact inductionHypothesis _ further (stopped_of_suffix atEnd)

/-- Without an empty line an input is accepted iff it stops behind a second line and is
accepted with the missing CR LF behind it. -/
theorem accepted_unterminated_iff {input : Bytes} (maxBody : Nat)
    (unterminated : ¬ Terminated input) :
    Accepted input maxBody ↔
      crlf <:+ input ∧ 2 ≤ crlfCount input ∧ Accepted (input ++ crlf) maxBody := by
  rcases unbroken_or_line input with unbroken | ⟨line, rest, rfl, unbroken⟩
  · constructor
    · intro accepted
      exact absurd accepted (not_accepted_of_unbroken maxBody unbroken)
    · rintro ⟨atEnd, _⟩
      exact absurd atEnd.isInfix unbroken
  · have further : ¬ Terminated (crlf ++ rest) := fun terminated =>
      unterminated terminated.of_rest
    rw [List.append_assoc (line ++ crlf), crlfCount_line rest unbroken,
      accepted_line_iff rest maxBody unbroken, accepted_line_iff (rest ++ crlf) maxBody unbroken]
    constructor
    · rintro ⟨enough, method, target, headers, available, first, fields, fits⟩
      have stopped : Stopped rest :=
        (terminated_or_stopped_of_readHeaders rest fields).resolve_left further
      have counted := one_le_crlfCount rest []
      rw [List.append_nil] at counted
      refine ⟨stopped.of_rest, by omega, counted, method, target, headers, available, first, ?_,
        fits⟩
      rw [readHeaders_append_crlf rest _ further stopped]
      exact fields
    · rintro ⟨atEnd, enough, _, method, target, headers, available, first, fields, fits⟩
      rw [readHeaders_append_crlf rest _ further (stopped_of_suffix atEnd)] at fields
      exact ⟨by omega, method, target, headers, available, first, fields, fits⟩

/-- **When acceptance shows an empty line.** It fails to do so exactly for the inputs without
an empty line that stop behind the CR LF of a second line and are acceptable once the empty
line is added. -/
theorem accepted_imp_terminated_iff (input : Bytes) (maxBody : Nat) :
    (Accepted input maxBody → Terminated input) ↔
      ¬ (¬ Terminated input ∧ crlf <:+ input ∧ 2 ≤ crlfCount input ∧
        Accepted (input ++ crlf) maxBody) := by
  constructor
  · rintro shows ⟨unterminated, cut⟩
    exact unterminated (shows ((accepted_unterminated_iff maxBody unterminated).mpr cut))
  · intro complete accepted
    by_contra unterminated
    exact complete ⟨unterminated, (accepted_unterminated_iff maxBody unterminated).mp accepted⟩

/-- A request that is cut off behind its only header line is accepted all the same. -/
theorem accepted_cut_behind_field :
    Accepted (Utf8.encode "GET / HTTP/1.1\r\nHost: x\r\n") 8192 ∧
      ¬ Terminated (Utf8.encode "GET / HTTP/1.1\r\nHost: x\r\n") := by
  constructor
  · unfold Accepted
    decide +kernel
  · decide +kernel

end HttpService.Wire
