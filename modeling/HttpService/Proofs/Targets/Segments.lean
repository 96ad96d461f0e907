import HttpService.Proofs.Targets.Grammar

/-!
Contract: what a segment of a target is decoded to.

Owns:
- when decoding fails, and with which error;
- **that decoding a segment loses nothing**: it gives the octets that a text with whole escapes
  stands for, as text, and fails only if they are none.

Does not own: paths, and what `+` means in a query.
-/

namespace HttpService.Target

open Text

/-- Decoding fails for texts that stand for no segment, and names them. -/
theorem decodeSegment_eq_error_iff {text : String} :
    decodeSegment text.toList = .error (.invalidTarget text) ↔
      ∀ segment, ¬ Names text.toList segment := by
  simp only [← decodeSegment_eq_ok_iff]
  unfold decodeSegment
  simp only [String.ofList_toList]
  split
  · cases Utf8.decode? (Percent.decode (Utf8.encode text)) with
    | none => simp
    | some segment => simp
  · simp

/-- **Segments are decoded without loss.** The scan for torn escapes looks at no octet that is not
there, and passes a text if and only if two digits follow every `%` among its octets. A text that
it passes stands for certain octets: each escape for one, and every other character, `+` among
them, for its own. The text is decoded to the segment that these octets spell, and fails to be
decoded only if they spell none. -/
theorem decodeSegment_lossless (text : String) :
    Percent.scanFrom? (Utf8.encode text).toArray 0 =
        some (Percent.isWellFormed (Utf8.encode text)) ∧
      (Percent.isWellFormed (Utf8.encode text) = true ↔
        Percent.WholeOctets (Utf8.encode text)) ∧
      (Percent.isWellFormed (Utf8.encode text) = true →
        ∃ octets, (∀ other, Percent.StandsFor text.toList other ↔ other = octets) ∧
          (∀ segment, decodeSegment text.toList = .ok segment ↔ Utf8.encode segment = octets) ∧
          (decodeSegment text.toList = .error (.invalidTarget text) ↔
            ∀ segment, Utf8.encode segment ≠ octets)) := by
  refine ⟨?_, Percent.isWellFormed_iff, ?_⟩
  · rw [Percent.isWellFormed_eq_isWholeOctets]
    exact Percent.scanFrom?_append [] (Utf8.encode text)
  · intro whole
    rw [Percent.isWellFormed_encode] at whole
    have only : ∀ other, Percent.StandsFor text.toList other ↔
        other = Percent.decode (Utf8.spell text.toList) := by
      intro other
      rw [Percent.standsFor_iff]
      exact ⟨fun means => means.2.symm, fun same => ⟨whole, same.symm⟩⟩
    refine ⟨_, only, ?_, ?_⟩
    · intro segment
      rw [decodeSegment_eq_ok_iff]
      exact only (Utf8.encode segment)
    · rw [decodeSegment_eq_error_iff]
      exact forall_congr' fun segment => not_congr (only (Utf8.encode segment))

/-- Escapes in either case beside a `+`, which stays, and an escaped one. -/
theorem decodeSegment_lossless_accented :
    Percent.isWellFormed (Utf8.encode "a+%c3%A9%2B") = true ∧
      decodeSegment "a+%c3%A9%2B".toList = .ok "a+é+" := by
  have whole : Percent.isWellFormed (Utf8.encode "a+%c3%A9%2B") = true := by decide +kernel
  have means : Percent.StandsFor "a+%c3%A9%2B".toList (Utf8.encode "a+é+") :=
    Percent.standsFor_iff.mpr (by decide +kernel)
  obtain ⟨octets, only, decoded, _⟩ := (decodeSegment_lossless "a+%c3%A9%2B").2.2 whole
  exact ⟨whole, (decoded "a+é+").mpr ((only _).mp means)⟩

end HttpService.Target
