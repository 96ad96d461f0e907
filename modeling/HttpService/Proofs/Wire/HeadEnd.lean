import HttpService.Proofs.Wire.Lines
import HttpService.Wire.Framing

/-!
Contract: where the first empty line of an input stands.

Owns:
- the first CR LF CR LF of an input, and that the search for the end of a head finds it;
- that more octets behind an input leave it where it is.

Does not own: the lines in front of it.
-/

namespace HttpService.Wire

/-- A CR LF CR LF stands at an index. -/
def BlankAt (input : Bytes) (index : Nat) : Prop :=
  crlf ++ crlf <+: input.drop index

/-- The first CR LF CR LF stands at an index. -/
structure FirstBlank (input : Bytes) (index : Nat) : Prop where
  here : BlankAt input index
  notEarlier : ∀ earlier < index, ¬ BlankAt input earlier

theorem blankAt_zero_cons (byte : UInt8) (rest : Bytes) :
    BlankAt (byte :: rest) 0 ↔ byte = cr ∧ [lf, cr, lf].isPrefixOf rest = true := by
  show cr :: [lf, cr, lf] <+: byte :: rest ↔ _
  rw [List.cons_prefix_cons, List.isPrefixOf_iff_prefix, eq_comm]

theorem firstBlank_succ_iff {byte : UInt8} {rest : Bytes} (notHere : ¬ BlankAt (byte :: rest) 0)
    (index : Nat) : FirstBlank (byte :: rest) (index + 1) ↔ FirstBlank rest index := by
  constructor
  · intro blank
    refine ⟨blank.here, ?_⟩
    intro earlier before
    exact blank.notEarlier (earlier + 1) (by omega)
  · intro blank
    refine ⟨blank.here, ?_⟩
    intro earlier before
    cases earlier with
    | zero => exact notHere
    | succ earlier => exact blank.notEarlier earlier (by omega)

theorem headEndFrom_eq_some_iff (input : Bytes) : ∀ start last : Nat,
    headEndFrom start input = some last ↔ ∃ index, last = start + index ∧ FirstBlank input index := by
  induction input with
  | nil =>
      intro start last
      have never : ∀ index, ¬ FirstBlank [] index := by
        intro index blank
        have bound := blank.here.length_le
        simp [crlf] at bound
      simp [headEndFrom, never]
  | cons byte rest inductionHypothesis =>
      intro start last
      by_cases ends : BlankAt (byte :: rest) 0
      · rw [headEndFrom, if_pos ((blankAt_zero_cons byte rest).mp ends)]
        constructor
        · rintro ⟨⟩
          exact ⟨0, rfl, ends, by simp⟩
        · rintro ⟨index, rfl, blank⟩
          cases index with
          | zero => rfl
          | succ index => exact absurd ends (blank.notEarlier 0 (by omega))
      · rw [headEndFrom, if_neg fun both => ends ((blankAt_zero_cons byte rest).mpr both),
          inductionHypothesis]
        constructor
        · rintro ⟨index, rfl, blank⟩
          exact ⟨index + 1, by omega, (firstBlank_succ_iff ends index).mpr blank⟩
        · rintro ⟨index, rfl, blank⟩
          cases index with
          | zero => exact absurd blank.here ends
          | succ index => exact ⟨index, by omega, (firstBlank_succ_iff ends index).mp blank⟩

theorem headEnd?_eq_some_iff {input : Bytes} {index : Nat} :
    headEnd? input = some index ↔ FirstBlank input index := by
  unfold headEnd?
  rw [headEndFrom_eq_some_iff]
  simp

theorem FirstBlank.unique {input : Bytes} {first second : Nat} (blank : FirstBlank input first)
    (other : FirstBlank input second) : first = second := by
  have found := headEnd?_eq_some_iff.mpr blank
  rw [headEnd?_eq_some_iff.mpr other] at found
  cases found
  rfl

theorem BlankAt.length_le {input : Bytes} {index : Nat} (blank : BlankAt input index) :
    index + 4 ≤ input.length := by
  have bound := List.IsPrefix.length_le blank
  rw [List.length_drop] at bound
  simp [crlf] at bound
  omega

theorem blankAt_append_iff {held : Bytes} {index : Nat} (arrived : index + 4 ≤ held.length)
    (more : Bytes) : BlankAt (held ++ more) index ↔ BlankAt held index := by
  unfold BlankAt
  rw [List.drop_append_of_le_length (by omega)]
  constructor
  · intro blank
    apply List.prefix_of_prefix_length_le blank (List.prefix_append _ _)
    rw [List.length_drop]
    simp [crlf]
    omega
  · intro blank
    exact blank.trans (List.prefix_append _ _)

theorem firstBlank_append_iff {held : Bytes} {index : Nat} (arrived : index + 4 ≤ held.length)
    (more : Bytes) : FirstBlank (held ++ more) index ↔ FirstBlank held index := by
  have same := fun earlier (before : earlier < index) =>
    blankAt_append_iff (by omega : earlier + 4 ≤ held.length) more
  constructor
  · intro blank
    refine ⟨(blankAt_append_iff arrived more).mp blank.here, ?_⟩
    intro earlier before
    rw [← same earlier before]
    exact blank.notEarlier earlier before
  · intro blank
    refine ⟨(blankAt_append_iff arrived more).mpr blank.here, ?_⟩
    intro earlier before
    rw [same earlier before]
    exact blank.notEarlier earlier before

end HttpService.Wire
