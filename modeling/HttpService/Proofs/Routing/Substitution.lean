import HttpService.Proofs.Text.Trim
import HttpService.Routing.Template

/-!
Contract: what it means to fill in the references of a text.

Owns:
- the induction over a text from one reference or plain character to the next;
- substitution as a relation: references are replaced from the front, each one as a whole, and
  what has been put in is not looked at again;
- **that filling in a template is substitution**, and that nothing else is;
- texts whose references are all bare names, which may be cut at any character that is neither
  part of a name nor a mark of a reference.

Does not own: which texts are checked for bare names.
-/

namespace HttpService.Routing

open Text

/-! ## From reference to reference -/

/-- No reference starts at this character. -/
def Unreferenced (c : Char) (rest : List Char) : Prop :=
  ∀ name after, '}' ∉ name → c :: rest ≠ writeReference name ++ after

theorem writeReference_append (name after : List Char) :
    writeReference name ++ after = '$' :: '{' :: (name ++ '}' :: after) := by
  simp [writeReference]

theorem pieces_writeReference {name : List Char} (closed : '}' ∉ name) (after : List Char) :
    pieces (writeReference name ++ after) = .reference name :: pieces after := by
  rw [writeReference_append, pieces]
  split
  · rename_i front back cut
    rw [cut?_append closed, Option.some.injEq, Prod.mk.injEq] at cut
    rw [cut.1, cut.2]
  · rename_i uncut
    rw [cut?_append closed] at uncut
    cases uncut

theorem pieces_of_unreferenced {c : Char} {rest : List Char}
    (unreferenced : Unreferenced c rest) : pieces (c :: rest) = .char c :: pieces rest := by
  by_cases marked : ∃ inner, c = '$' ∧ rest = '{' :: inner
  · obtain ⟨inner, rfl, rfl⟩ := marked
    rw [pieces]
    split
    · rename_i name after cut
      refine absurd ?_ (unreferenced name after (not_mem_of_cut? cut))
      rw [writeReference_append, eq_append_of_cut? cut]
    · rfl
  · rw [pieces]
    intro inner dollar opened
    exact marked ⟨inner, dollar, opened⟩

/-- A text is empty, or starts with a reference, or with a character that starts none. -/
theorem template_induction {motive : List Char → Prop} (done : motive [])
    (plain : ∀ c rest, Unreferenced c rest → motive rest → motive (c :: rest))
    (reference : ∀ name after, '}' ∉ name → motive after → motive (writeReference name ++ after))
    (chars : List Char) : motive chars := by
  fun_induction pieces chars with
  | case1 => exact done
  | case2 rest name after cut inductionHypothesis =>
      have shape : '$' :: '{' :: rest = writeReference name ++ after := by
        rw [writeReference_append, eq_append_of_cut? cut]
      rw [shape]
      exact reference name after (not_mem_of_cut? cut) inductionHypothesis
  | case3 rest uncut inductionHypothesis =>
      refine plain _ _ ?_ inductionHypothesis
      intro name after closed shape
      rw [writeReference_append, List.cons.injEq, List.cons.injEq] at shape
      rw [shape.2.2, cut?_append closed] at uncut
      cases uncut
  | case4 c rest plainly inductionHypothesis =>
      refine plain _ _ ?_ inductionHypothesis
      intro name after closed shape
      rw [writeReference_append, List.cons.injEq] at shape
      exact plainly _ shape.1 shape.2

/-! ## Substitution -/

/-- The text `result` is `template` with each reference `${name}` replaced by the value of its
name. A reference ends at the first `}`, and one without a value stays as it is written. -/
inductive Substituted (value? : String → Option String) : List Char → List Char → Prop where
  | done : Substituted value? [] []
  | plain {c : Char} {rest result : List Char} (unreferenced : Unreferenced c rest) :
      Substituted value? rest result → Substituted value? (c :: rest) (c :: result)
  | replaced {name after result : List Char} {value : String} (closed : '}' ∉ name)
      (known : value? (String.ofList name) = some value) :
      Substituted value? after result →
      Substituted value? (writeReference name ++ after) (value.toList ++ result)
  | kept {name after result : List Char} (closed : '}' ∉ name)
      (unknown : value? (String.ofList name) = none) :
      Substituted value? after result →
      Substituted value? (writeReference name ++ after) (writeReference name ++ result)

/-- The characters of a text with its references filled in with encoded values. -/
def filledWith (params : List (String × String)) (encode : String → String)
    (chars : List Char) : List Char :=
  (pieces chars).flatMap (Piece.fill params encode)

/-- The characters of a text with its references filled in as they are. -/
def plainlyFilled (params : List (String × String)) (chars : List Char) : List Char :=
  filledWith params id chars

section

variable {params : List (String × String)} {encode : String → String}

theorem filledWith_nil : filledWith params encode [] = [] := by
  unfold filledWith
  rw [pieces, List.flatMap_nil]

theorem filledWith_cons {c : Char} {rest : List Char} (unreferenced : Unreferenced c rest) :
    filledWith params encode (c :: rest) = c :: filledWith params encode rest := by
  unfold filledWith
  rw [pieces_of_unreferenced unreferenced]
  rfl

theorem filledWith_of_known {name : List Char} {value : String} (closed : '}' ∉ name)
    (known : params.lookup (String.ofList name) = some value) (after : List Char) :
    filledWith params encode (writeReference name ++ after) =
      (encode value).toList ++ filledWith params encode after := by
  unfold filledWith
  rw [pieces_writeReference closed, List.flatMap_cons, Piece.fill, known]

theorem filledWith_of_unknown {name : List Char} (closed : '}' ∉ name)
    (unknown : params.lookup (String.ofList name) = none) (after : List Char) :
    filledWith params encode (writeReference name ++ after) =
      writeReference name ++ filledWith params encode after := by
  unfold filledWith
  rw [pieces_writeReference closed, List.flatMap_cons, Piece.fill, unknown]

theorem substituted_plainlyFilled (chars : List Char) :
    Substituted (fun name => params.lookup name) chars (plainlyFilled params chars) := by
  unfold plainlyFilled
  induction chars using template_induction with
  | done =>
      rw [filledWith_nil]
      exact .done
  | plain c rest unreferenced inductionHypothesis =>
      rw [filledWith_cons unreferenced]
      exact .plain unreferenced inductionHypothesis
  | reference name after closed inductionHypothesis =>
      cases found : params.lookup (String.ofList name) with
      | some value =>
          rw [filledWith_of_known closed found]
          exact .replaced closed found inductionHypothesis
      | none =>
          rw [filledWith_of_unknown closed found]
          exact .kept closed found inductionHypothesis

/-- **Filling in a template is substitution**, and nothing else is. -/
theorem substituted_iff {chars result : List Char} :
    Substituted (fun name => params.lookup name) chars result ↔
      result = plainlyFilled params chars := by
  constructor
  · intro substituted
    unfold plainlyFilled
    induction substituted with
    | done => rw [filledWith_nil]
    | plain unreferenced _ inductionHypothesis =>
        rw [filledWith_cons unreferenced, inductionHypothesis]
    | replaced closed known _ inductionHypothesis =>
        rw [filledWith_of_known closed known, inductionHypothesis]
        rfl
    | kept closed unknown _ inductionHypothesis =>
        rw [filledWith_of_unknown closed unknown, inductionHypothesis]
  · rintro rfl
    exact substituted_plainlyFilled chars

theorem toList_fillTemplate (template : String) :
    (fillTemplate params id template).toList = plainlyFilled params template.toList :=
  String.toList_ofList

end

/-! ## Bare names -/

/-- The references of a text are all bare names. -/
def Bare (chars : List Char) : Prop :=
  ∀ name, Piece.reference name ∈ pieces chars → isName name = true

theorem Bare.behind {piece : Piece} {chars rest : List Char} (bare : Bare chars)
    (read : pieces chars = piece :: pieces rest) : Bare rest :=
  fun name member => bare name (read ▸ List.mem_cons_of_mem piece member)

theorem Bare.isName_of_writeReference {name after : List Char} (closed : '}' ∉ name)
    (bare : Bare (writeReference name ++ after)) : isName name = true :=
  bare name (pieces_writeReference closed after ▸ List.mem_cons_self)

/-- A character that is neither part of a name nor a mark of a reference. -/
def isSeparator (c : Char) : Bool :=
  !isNameChar c && c != '$' && c != '{' && c != '}'

theorem not_mem_name {c : Char} (outside : isNameChar c = false) {name : List Char}
    (named : isName name = true) : c ∉ name := by
  intro member
  unfold isName at named
  rw [Bool.and_eq_true] at named
  rw [List.all_eq_true.mp named.2 c member] at outside
  cases outside

section

variable {c : Char}

theorem isSeparator_iff :
    isSeparator c = true ↔ isNameChar c = false ∧ c ≠ '$' ∧ c ≠ '{' ∧ c ≠ '}' := by
  simp [isSeparator, and_assoc]

/-- A character that starts no reference starts none if a separator and more text follow. -/
theorem unreferenced_append (separates : isSeparator c = true) {first : Char}
    {rest back : List Char} (unreferenced : Unreferenced first rest)
    (bare : Bare (first :: (rest ++ c :: back))) : Unreferenced first (rest ++ c :: back) := by
  intro name after closed shape
  obtain ⟨outside, notDollar, notOpening, notClosing⟩ := isSeparator_iff.mp separates
  have named : isName name = true := by
    apply Bare.isName_of_writeReference closed
    rw [← shape]
    exact bare
  have cuts : first :: rest ++ c :: back = '$' :: '{' :: name ++ '}' :: after := by
    rw [writeReference_append] at shape
    exact shape
  -- The closing brace stands behind the separator, which the name would hold, or in front of it.
  rcases List.append_eq_append_iff.mp cuts with ⟨more, front, tail⟩ | ⟨more, front, tail⟩
  · cases more with
    | nil => exact notClosing (List.cons.inj tail).1
    | cons next more =>
        have inside : c ∈ '$' :: '{' :: name := by
          rw [front, ← (List.cons.inj tail).1]
          simp
        simp only [List.mem_cons, notDollar, notOpening, false_or] at inside
        exact not_mem_name outside named inside
  · cases more with
    | nil => exact notClosing (List.cons.inj tail).1.symm
    | cons next more =>
        refine unreferenced name more closed ?_
        rw [front, writeReference_append, ← (List.cons.inj tail).1]
        rfl

/-- **A text with bare names may be cut at a separator** before its references are read. -/
theorem pieces_append_of_bare (separates : isSeparator c = true) {back : List Char}
    (front : List Char) (bare : Bare (front ++ c :: back)) :
    pieces (front ++ c :: back) = pieces front ++ .char c :: pieces back := by
  induction front using template_induction with
  | done =>
      have start : pieces ([] : List Char) = [] := by rw [pieces]
      rw [start]
      apply pieces_of_unreferenced
      intro name after _ shape
      rw [writeReference_append] at shape
      exact (isSeparator_iff.mp separates).2.1 (List.cons.inj shape).1
  | plain first rest unreferenced inductionHypothesis =>
      have read := pieces_of_unreferenced (unreferenced_append separates unreferenced bare)
      rw [pieces_of_unreferenced unreferenced, List.cons_append, read,
        inductionHypothesis (bare.behind read)]
      rfl
  | reference name after closed inductionHypothesis =>
      have read := pieces_writeReference closed (after ++ c :: back)
      rw [List.append_assoc] at bare ⊢
      rw [read, pieces_writeReference closed, inductionHypothesis (bare.behind read)]
      rfl

theorem Bare.front (separates : isSeparator c = true) {front back : List Char}
    (bare : Bare (front ++ c :: back)) : Bare front := by
  intro name member
  apply bare name
  rw [pieces_append_of_bare separates front bare]
  exact List.mem_append_left _ member

theorem Bare.back (separates : isSeparator c = true) {front back : List Char}
    (bare : Bare (front ++ c :: back)) : Bare back := by
  intro name member
  apply bare name
  rw [pieces_append_of_bare separates front bare]
  exact List.mem_append_right _ (List.mem_cons_of_mem _ member)

end

end HttpService.Routing
