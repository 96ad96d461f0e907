import HttpService.Proofs.Wire.Agreement
import HttpService.Proofs.Wire.PlainHead

/-!
Contract: a request that has arrived is read alike whatever follows it.

Owns:
- that header lines in front of an empty line are read without a look at what follows;
- **more octets behind a complete request change nothing**, for plain heads and all methods
  but TRACE.

Does not own: when reading from a stream stops.
-/

namespace HttpService.Wire

/-- What is left behind a line begins with an empty line, or holds one further on. -/
def Blanked (rest : Bytes) : Prop :=
  crlf.isPrefixOf rest = true ∨ ∃ index, FirstBlank rest index

theorem blanked_of_firstBlank_line {line rest : Bytes} {index : Nat} (unbroken : Unbroken line)
    (blank : FirstBlank (line ++ crlf ++ rest) index) : Blanked rest := by
  have found := (headEndFrom_eq_some_iff _ 0 index).mpr ⟨index, by omega, blank⟩
  rw [headEndFrom_line rest line 0 unbroken] at found
  by_cases ends : crlf.isPrefixOf rest = true
  · exact Or.inl ends
  · rw [if_neg ends, headEndFrom_eq_some_iff] at found
    obtain ⟨further, _, blank⟩ := found
    exact Or.inr ⟨further, blank⟩

theorem FirstBlank.not_unbroken {input : Bytes} {index : Nat} (blank : FirstBlank input index) :
    ¬ Unbroken input := by
  intro unbroken
  apply unbroken
  have pair : crlf <+: input.drop index := (List.prefix_append crlf crlf).trans blank.here
  exact pair.isInfix.trans (List.drop_suffix index input).isInfix

theorem Blanked.not_unbroken {rest : Bytes} (blanked : Blanked rest) : ¬ Unbroken rest := by
  rcases blanked with ends | ⟨index, blank⟩
  · exact fun unbroken => unbroken (List.isPrefixOf_iff_prefix.mp ends).isInfix
  · exact blank.not_unbroken

theorem Blanked.one_le_crlfCount {rest : Bytes} (blanked : Blanked rest) (more : Bytes) :
    1 ≤ crlfCount (rest ++ more) := by
  rcases unbroken_or_line rest with unbroken | ⟨line, behind, rfl, _⟩
  · exact absurd unbroken blanked.not_unbroken
  · rw [List.append_assoc]
    exact Wire.one_le_crlfCount line (behind ++ more)

theorem readHeaders_append (rest more : Bytes) (headers : Headers) (blanked : Blanked rest) :
    readHeaders headers (some (rest ++ more)) =
      (readHeaders headers (some rest)).map fun read => (read.1, read.2 ++ more) := by
  induction rest using line_induction generalizing headers with
  | last bytes unbroken => exact absurd unbroken blanked.not_unbroken
  | line line rest unbroken inductionHypothesis =>
      rw [List.append_assoc (line ++ crlf)]
      by_cases filled : line = []
      · subst filled
        rw [List.nil_append, readHeaders_blank, readHeaders_blank]
        rfl
      · have further : Blanked rest := by
          -- The line is filled, so the empty line stands behind it.
          rcases blanked with ends | ⟨index, blank⟩
          · rw [not_crlf_isPrefixOf rest unbroken filled] at ends
            cases ends
          · exact blanked_of_firstBlank_line unbroken blank
        rw [readHeaders_line headers _ unbroken filled, readHeaders_line headers _ unbroken filled]
        cases readField line with
        | error error => rfl
        | ok field => exact inductionHypothesis _ further

theorem readBody_append {input available : Bytes} {method : Method} {length : Nat}
    (notTrace : method ≠ .trace) (enough : length ≤ available.length) (more : Bytes) :
    readBody (input ++ more) method length (available ++ more) =
      readBody input method length available := by
  have present : ¬ available.length < length := by omega
  have stillPresent : ¬ (available ++ more).length < length := by
    rw [List.length_append]
    omega
  unfold readBody
  rw [if_neg notTrace, if_neg notTrace, if_neg present, if_neg stillPresent,
    List.take_append_of_le_length enough]

/-- The declared body is cut off in front of what follows it, except after TRACE. -/
theorem readBodied_append {input available : Bytes} {maxBody : Nat} {method : Method}
    {target : Target} {headers : Headers} (notTrace : method ≠ .trace)
    (present : headers.contentLength ≤ maxBody → headers.contentLength ≤ available.length)
    (more : Bytes) :
    readBodied (input ++ more) maxBody method target headers (available ++ more) =
      readBodied input maxBody method target headers available := by
  unfold readBodied
  by_cases large : headers.contentLength > maxBody
  · rw [if_pos large, if_pos large]
  · rw [if_neg large, if_neg large, readBody_append notTrace (present (by omega))]

theorem starts_with_trace {input : Bytes} {target : Target} {fields : Headers × Bytes}
    (first : readRequestLine (nextLine input).1 = .ok (.trace, target))
    (read : readHeaders .empty (nextLine input).2 = .ok fields) :
    Utf8.encode "TRACE " <+: input := by
  obtain ⟨line, lines, behind, parted, _⟩ := exists_parted first read
  rw [parted.firstLine] at first
  obtain ⟨rest, shape⟩ := start_of_readRequestLine first
  have front : line.toList = "TRACE ".toList ++ rest := shape
  rw [parted.whole, joined, List.append_assoc, List.append_assoc, Utf8.encode_eq_spell,
    Utf8.encode_eq_spell, front, Utf8.spell_append, List.append_assoc]
  exact List.prefix_append _ _

theorem le_length_of_complete {held available : Bytes} {maxBody index : Nat}
    {start : Method × Target} {headers : Headers} (plain : PlainHead held)
    (complete : isComplete? held maxBody = some true) (blank : FirstBlank held index)
    (first : readRequestLine (nextLine held).1 = .ok start)
    (read : readHeaders .empty (nextLine held).2 = .ok (headers, available))
    (allowed : headers.contentLength ≤ maxBody) : headers.contentLength ≤ available.length := by
  have enough := le_of_isComplete? (headEnd?_eq_some_iff.mpr blank) complete
  obtain ⟨announced, size⟩ := plain.announcedLength_eq blank first read
  rw [announced] at enough
  omega

theorem exists_firstBlank_of_complete {held : Bytes} {maxBody : Nat}
    (complete : isComplete? held maxBody = some true) : ∃ index, FirstBlank held index := by
  unfold isComplete? at complete
  split at complete
  · cases complete
  · rename_i index ended
    exact ⟨index, headEnd?_eq_some_iff.mp ended⟩

/-- **A complete request is read alike whatever follows it.** -/
theorem readRequest_append_of_complete {held : Bytes} {maxBody : Nat} (plain : PlainHead held)
    (notTrace : ¬ Utf8.encode "TRACE " <+: held)
    (complete : isComplete? held maxBody = some true) (more : Bytes) :
    readRequest (held ++ more) maxBody = readRequest held maxBody := by
  obtain ⟨index, blank⟩ := exists_firstBlank_of_complete complete
  rcases unbroken_or_line held with unbroken | ⟨line, rest, rfl, unbroken⟩
  · exact absurd unbroken blank.not_unbroken
  have blanked := blanked_of_firstBlank_line unbroken blank
  have counted := blanked.one_le_crlfCount []
  rw [List.append_nil] at counted
  rw [List.append_assoc (line ++ crlf), readRequest_behind_line maxBody unbroken counted,
    readRequest_behind_line maxBody unbroken (blanked.one_le_crlfCount more),
    readHeaders_append rest more .empty blanked, ← List.append_assoc (line ++ crlf)]
  have next := nextLine_line rest unbroken
  cases first : readRequestLine line with
  | error error => rfl
  | ok start =>
      cases fields : readHeaders .empty (some rest) with
      | error error => rfl
      | ok result =>
          obtain ⟨method, target⟩ := start
          obtain ⟨headers, available⟩ := result
          have firstNext : readRequestLine (nextLine (line ++ crlf ++ rest)).1 =
              .ok (method, target) := by
            rw [next, first]
          have fieldsNext : readHeaders .empty (nextLine (line ++ crlf ++ rest)).2 =
              .ok (headers, available) := by
            rw [next, fields]
          -- A TRACE request would begin with its method; its body is all that has been read.
          have otherMethod : method ≠ .trace := by
            rintro rfl
            exact notTrace (starts_with_trace firstNext fieldsNext)
          exact readBodied_append otherMethod
            (le_length_of_complete plain complete blank firstNext fieldsNext) more

end HttpService.Wire
