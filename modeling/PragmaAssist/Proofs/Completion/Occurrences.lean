import PragmaAssist.Proofs.Completion.RankOrder

/-! The candidates that are offered, occurrence by occurrence. All matches are offered and nothing
else, those of a higher score first, and those of one score in the order of the candidates. -/
namespace PragmaAssist

/-- Elements that may stand either way round in a sorted list stand as they did before. -/
theorem pairwise_mergeSort_ties {α : Type} {le : α → α → Bool}
    (trans : ∀ a b c, le a b = true → le b c = true → le a c = true)
    (total : ∀ a b, (le a b || le b a) = true) {before : α → α → Prop} {l : List α}
    (h : l.Pairwise before) :
    (l.mergeSort le).Pairwise fun a b => le a b = true ∧ (le b a = true → before a b) := by
  rw [List.pairwise_iff_forall_sublist]
  intro a b hpair
  have hab : le a b = true :=
    List.pairwise_iff_forall_sublist.1 (List.pairwise_mergeSort trans total l) hpair
  refine ⟨hab, fun hba => ?_⟩
  -- All that may stand either way round beside `a` keeps its order, and so do `a` and `b`.
  let ties : α → Bool := fun x => le a x && le x a
  have haa : le a a = true := by simpa using total a a
  have hkept : (l.mergeSort le).filter ties = l.filter ties := by
    refine filter_mergeSort trans total fun x _ y _ hx hy => ?_
    exact trans x a y (Bool.and_eq_true_iff.1 hx).2 (Bool.and_eq_true_iff.1 hy).1
  have hties : [a, b].filter ties = [a, b] := by simp [ties, haa, hab, hba]
  have hsub : [a, b].Sublist (l.filter ties) := by
    rw [← hkept, ← hties]
    exact hpair.filter ties
  exact List.pairwise_iff_forall_sublist.1 h (hsub.trans List.filter_sublist)

namespace Ranking

def occurrences (p : Text) (candidates : List Text) : List (Text × Nat) :=
  candidates.zipIdx.filter fun o => isMatch p o.1

theorem map_fst_occurrences (p : Text) (candidates : List Text) :
    (occurrences p candidates).map Prod.fst = candidates.filter (isMatch p) := by
  have h := List.filter_map (f := Prod.fst) (p := isMatch p) (l := candidates.zipIdx)
  rw [List.zipIdx_map_fst] at h
  exact h.symm

theorem pairwise_occurrences (p : Text) (candidates : List Text) :
    (occurrences p candidates).Pairwise fun a b => a.2 < b.2 := by
  have h : candidates.zipIdx.Pairwise fun a b => a.2 < b.2 := by
    rw [← List.pairwise_map, List.zipIdx_map_snd]
    exact List.pairwise_lt_range'
  exact h.filter _

theorem rank_eq_map_fst {p : Text} (hp : p ≠ []) (candidates : List Text) :
    rank p candidates = ((occurrences p candidates).mergeSort fun a b =>
      decide (grade p b.1 ≤ grade p a.1)).map Prod.fst := by
  rw [rank_eq_mergeSort hp, ← map_fst_occurrences]
  exact (List.map_mergeSort (f := Prod.fst) fun _ _ _ _ => rfl).symm

/-- What is offered are the occurrences of matches, each once: all candidates as they are for an
empty pattern, and else sorted by score, the earlier of two with one score first. -/
theorem rank_occurrences (p : Text) (candidates : List Text) :
    (p = [] → rank p candidates = candidates) ∧
      ∃ order : List (Text × Nat), order.Perm (occurrences p candidates) ∧
        rank p candidates = order.map Prod.fst ∧
        (p ≠ [] → order.Pairwise fun a b =>
          grade p b.1 < grade p a.1 ∨ grade p b.1 = grade p a.1 ∧ a.2 < b.2) := by
  refine ⟨fun hp => hp ▸ rank_nil candidates, ?_⟩
  by_cases hp : p = []
  · subst hp
    refine ⟨occurrences [] candidates, .refl _, ?_, fun h => absurd rfl h⟩
    rw [map_fst_occurrences]
    rfl
  · refine ⟨_, List.mergeSort_perm _ _, rank_eq_map_fst hp candidates, fun _ => ?_⟩
    have hsorted := pairwise_mergeSort_ties (descending_trans fun o : Text × Nat => grade p o.1)
      (descending_total fun o : Text × Nat => grade p o.1) (pairwise_occurrences p candidates)
    refine hsorted.imp fun {a b} h => ?_
    obtain ⟨hle, hties⟩ := h
    rcases (of_decide_eq_true hle).lt_or_eq with hlt | heq
    · exact .inl hlt
    · exact .inr ⟨heq, hties (decide_eq_true heq.ge)⟩

end Ranking
end PragmaAssist
