/-!
Contract: work that gets less.

Owns:
- a relation between lists of work in which one entry is finished, or replaced by a
  smaller one; the order of the entries does not count;
- its well-foundedness: work that gets less in every step comes to an end.

Does not own: what the entries are.
-/

namespace HttpService

variable {α : Type}

/-- `Descent smaller after before`: one entry of `before` is gone in `after`, or has
become a smaller one. -/
inductive Descent (smaller : α → α → Prop) : List α → List α → Prop where
  | finish {before after : List α} {entry : α} :
      before.Perm (entry :: after) → Descent smaller after before
  | reduce {before others after : List α} {entry rest : α} :
      smaller rest entry → before.Perm (entry :: others) → after.Perm (rest :: others) →
        Descent smaller after before

/-- Where an entry of a permuted list comes from: it is the head, or it stands in the
tail. -/
theorem perm_cons_cases {head entry : α} {tail others : List α}
    (same : (head :: tail).Perm (entry :: others)) :
    (entry = head ∧ tail.Perm others) ∨
      ∃ between, tail.Perm (entry :: between) ∧ others.Perm (head :: between) := by
  have found : entry ∈ head :: tail := same.mem_iff.mpr List.mem_cons_self
  rcases List.mem_cons.mp found with rfl | inTail
  · exact .inl ⟨rfl, same.cons_inv⟩
  · obtain ⟨front, back, rfl⟩ := List.append_of_mem inTail
    have middle : (front ++ entry :: back).Perm (entry :: (front ++ back)) := List.perm_middle
    have swapped : (entry :: head :: (front ++ back)).Perm (entry :: others) :=
      (List.Perm.swap head entry (front ++ back)).trans
        ((middle.symm.cons head).trans same)
    exact .inr ⟨front ++ back, middle, swapped.cons_inv.symm⟩

namespace Descent

variable {smaller : α → α → Prop}

/-- The order of the entries does not count. -/
theorem acc_of_perm {before same : List α} (ends : Acc (Descent smaller) before)
    (permuted : before.Perm same) : Acc (Descent smaller) same := by
  refine ⟨same, fun after step => ends.inv ?_⟩
  cases step with
  | finish taken => exact .finish (permuted.trans taken)
  | reduce less taken left => exact .reduce less (permuted.trans taken) left

/-- Work that comes to an end still does so with one more entry. -/
theorem acc_cons {entry : α} (entryEnds : Acc smaller entry) {others : List α}
    (othersEnd : Acc (Descent smaller) others) : Acc (Descent smaller) (entry :: others) := by
  induction entryEnds generalizing others with
  | intro entry _ smallerEntry =>
    induction othersEnd with
    | intro others othersEnd fewerOthers =>
      refine ⟨_, fun after step => ?_⟩
      cases step with
      | finish taken =>
          rcases perm_cons_cases taken with ⟨_, same⟩ | ⟨between, inOthers, left⟩
          · exact acc_of_perm ⟨others, othersEnd⟩ same
          · exact acc_of_perm (fewerOthers between (.finish inOthers)) left.symm
      | reduce less taken left =>
          rcases perm_cons_cases taken with ⟨rfl, same⟩ | ⟨between, inOthers, rest⟩
          · exact acc_of_perm (smallerEntry _ less ⟨others, othersEnd⟩)
              ((same.cons _).trans left.symm)
          · exact acc_of_perm (fewerOthers _ (.reduce less inOthers (.refl _)))
              ((List.Perm.swap _ _ between).trans ((rest.symm.cons _).trans left.symm))

/-- Work that gets less in every step comes to an end. -/
theorem wellFounded (ends : WellFounded smaller) : WellFounded (Descent smaller) := by
  refine ⟨fun entries => ?_⟩
  induction entries with
  | nil =>
      refine ⟨_, fun after step => ?_⟩
      cases step with
      | finish taken => exact absurd taken.length_eq (by simp)
      | reduce _ taken _ => exact absurd taken.length_eq (by simp)
  | cons entry others inductionHypothesis => exact acc_cons (ends.apply entry) inductionHypothesis

end Descent

end HttpService
