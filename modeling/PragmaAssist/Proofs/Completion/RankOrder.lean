import PragmaAssist.Proofs.Completion.Similarity

/-! The order in which matches are offered. They are sorted by score, and those that hold the
pattern as one run, and so have the highest score, come first in the order of the candidates. -/
namespace PragmaAssist

theorem lowerFrom_ne_nil (before : Bool) {t : Text} (h : t ≠ []) : lowerFrom before t ≠ [] := by
  obtain ⟨c, r, rfl⟩ := List.exists_cons_of_ne_nil h
  rw [lowerFrom]
  split
  · exact List.cons_ne_nil _ _
  · rw [lowerChar]
    split <;> exact List.cons_ne_nil _ _

theorem eq_filter_append_of_pairwise {α : Type} {first : α → Bool} {l : List α}
    (h : l.Pairwise fun a b => first b = true → first a = true) :
    l = l.filter first ++ l.filter (!first ·) := by
  induction l with
  | nil => rfl
  | cons a l ih =>
    obtain ⟨hbehind, hl⟩ := List.pairwise_cons.1 h
    cases ha : first a with
    | true =>
      rw [List.filter_cons_of_pos ha, List.filter_cons_of_neg (by simp [ha]), List.cons_append,
        ← ih hl]
    | false =>
      have hnone : ∀ b ∈ l, first b = false := fun b hb => by
        simpa [ha] using hbehind b hb
      have hfirst : l.filter first = [] :=
        List.filter_eq_nil_iff.2 fun b hb => by simp [hnone b hb]
      have hothers : l.filter (!first ·) = l :=
        List.filter_eq_self.2 fun b hb => by simp [hnone b hb]
      rw [List.filter_cons_of_neg (by simp [ha]), List.filter_cons_of_pos (by simp [ha]), hfirst,
        hothers, List.nil_append]

/-- Elements that may stand before one another keep their order in a stable sort. -/
theorem filter_mergeSort {α : Type} {le : α → α → Bool}
    (trans : ∀ a b c, le a b = true → le b c = true → le a c = true)
    (total : ∀ a b, (le a b || le b a) = true) {keep : α → Bool} {l : List α}
    (h : ∀ a ∈ l, ∀ b ∈ l, keep a = true → keep b = true → le a b = true) :
    (l.mergeSort le).filter keep = l.filter keep := by
  have hsorted : (l.filter keep).Pairwise (fun a b => le a b = true) := by
    refine List.pairwise_of_forall_mem_list fun a ha b hb => ?_
    obtain ⟨ha, hkeepa⟩ := List.mem_filter.1 ha
    obtain ⟨hb, hkeepb⟩ := List.mem_filter.1 hb
    exact h a ha b hb hkeepa hkeepb
  have hsub : (l.filter keep).Sublist ((l.mergeSort le).filter keep) := by
    have hsub := (List.sublist_mergeSort trans total hsorted List.filter_sublist).filter keep
    simpa only [List.filter_filter, Bool.and_self] using hsub
  exact (hsub.eq_of_length ((List.mergeSort_perm l le).filter keep).length_eq.symm).symm

theorem mergeSort_eq_filter_append {α : Type} {le : α → α → Bool}
    (trans : ∀ a b c, le a b = true → le b c = true → le a c = true)
    (total : ∀ a b, (le a b || le b a) = true) {first : α → Bool} {l : List α}
    (hfirst : ∀ a ∈ l, ∀ b ∈ l, first a = true → le a b = true)
    (hothers : ∀ a ∈ l, ∀ b ∈ l, le a b = true → first b = true → first a = true) :
    l.mergeSort le = l.filter first ++ (l.mergeSort le).filter (!first ·) := by
  have hperm := List.mergeSort_perm l le
  have hsplit : l.mergeSort le =
      (l.mergeSort le).filter first ++ (l.mergeSort le).filter (!first ·) := by
    refine eq_filter_append_of_pairwise ?_
    refine (List.pairwise_mergeSort trans total l).imp_of_mem fun ha hb hab => ?_
    exact hothers _ (hperm.mem_iff.1 ha) _ (hperm.mem_iff.1 hb) hab
  have hfront : (l.mergeSort le).filter first = l.filter first :=
    filter_mergeSort trans total fun a ha b hb ha' _ => hfirst a ha b hb ha'
  rwa [hfront] at hsplit

section Descending
variable {α : Type} (f : α → ℚ)

theorem descending_trans (a b c : α) (hab : decide (f b ≤ f a) = true)
    (hbc : decide (f c ≤ f b) = true) : decide (f c ≤ f a) = true := by
  rw [decide_eq_true_iff] at hab hbc ⊢
  exact hbc.trans hab

theorem descending_total (a b : α) : (decide (f b ≤ f a) || decide (f a ≤ f b)) = true := by
  rw [Bool.or_eq_true, decide_eq_true_iff, decide_eq_true_iff]
  exact le_total _ _

end Descending

namespace Ranking
variable {p c : Text} {candidates : List Text}

theorem inOrder_iff {p t : Text} : inOrder p t = true ↔ p.Sublist t := by
  fun_induction inOrder p t with
  | case1 t => simp
  | case2 a p => simp
  | case3 a p t ih => rw [ih, List.cons_sublist_cons]
  | case4 a p c t hac ih => rw [ih, List.cons_sublist_cons', or_iff_left fun h => hac h.1]

theorem isMatch_iff : isMatch p c = true ↔ p.lower.Sublist c.lower := inOrder_iff

def grade (p c : Text) : ℚ := (score p.lower c.lower).value

theorem rank_eq_mergeSort (hp : p ≠ []) (candidates : List Text) :
    rank p candidates =
      (candidates.filter (isMatch p)).mergeSort fun a b => decide (grade p b ≤ grade p a) := by
  have hlower : p.lower ≠ [] := lowerFrom_ne_nil false hp
  have hempty : p.isEmpty = false := by simpa using hp
  rw [rank]
  simp only [hempty, Bool.false_eq_true, if_false]
  refine (List.map_mergeSort (s := fun a b => decide (grade p b ≤ grade p a))
    fun a ha b hb => ?_).trans ?_
  · obtain ⟨x, -, rfl⟩ := List.mem_map.1 ha
    obtain ⟨y, -, rfl⟩ := List.mem_map.1 hb
    rw [Bool.eq_iff_iff, decide_eq_true_iff]
    exact Score.le_iff (score_den_pos hlower _) (score_den_pos hlower _)
  · rw [List.map_map]
    exact congrArg (List.mergeSort · _) (List.map_id _)

theorem isMatch_nil (c : Text) : isMatch [] c = true := by
  rw [isMatch, Text.lower, lowerFrom, inOrder]

theorem rank_nil (candidates : List Text) : rank [] candidates = candidates :=
  List.filter_eq_self.2 fun c _ => isMatch_nil c

theorem rank_perm (p : Text) (candidates : List Text) :
    (rank p candidates).Perm (candidates.filter (isMatch p)) := by
  by_cases hp : p = []
  · subst hp
    exact .refl _
  · rw [rank_eq_mergeSort hp]
    exact List.mergeSort_perm _ _

theorem lower_ne_nil_of_isMatch (hp : p ≠ []) (h : isMatch p c = true) : c.lower ≠ [] := by
  intro hc
  have hsub := isMatch_iff.1 h
  rw [hc, List.sublist_nil] at hsub
  exact lowerFrom_ne_nil false hp hsub

theorem isGreatest_grade (hp : p ≠ []) (h : isMatch p c = true) :
    IsGreatest (similarities p.lower c.lower) (grade p c) :=
  isGreatest_score (lowerFrom_ne_nil false hp) (lower_ne_nil_of_isMatch hp h)

theorem grade_le_one (hp : p ≠ []) (h : isMatch p c = true) : grade p c ≤ 1 :=
  similarities_le_one (lowerFrom_ne_nil false hp) (isGreatest_grade hp h).1

theorem grade_eq_one_iff (hp : p ≠ []) (h : isMatch p c = true) :
    grade p c = 1 ↔ p.lower <:+: c.lower :=
  score_eq_one_iff (lowerFrom_ne_nil false hp) (lower_ne_nil_of_isMatch hp h)

theorem rank_eq_filter_append (hp : p ≠ []) (candidates : List Text) :
    rank p candidates = candidates.filter (fun c => p.lower <:+: c.lower) ++
      (rank p candidates).filter (fun c => !decide (p.lower <:+: c.lower)) := by
  have hmatch {c : Text} (h : c ∈ candidates.filter (isMatch p)) : isMatch p c = true :=
    (List.mem_filter.1 h).2
  have hruns : (candidates.filter (isMatch p)).filter (fun c => p.lower <:+: c.lower) =
      candidates.filter (fun c => p.lower <:+: c.lower) := by
    rw [List.filter_filter]
    refine List.filter_congr fun c _ => ?_
    rw [Bool.and_eq_left_iff_imp, decide_eq_true_iff]
    exact fun h => isMatch_iff.2 h.sublist
  rw [rank_eq_mergeSort hp, ← hruns]
  refine mergeSort_eq_filter_append (descending_trans (grade p)) (descending_total (grade p))
    (fun a ha b hb h => ?_) fun a ha b hb hle h => ?_
  · rw [decide_eq_true_iff] at h ⊢
    rw [(grade_eq_one_iff hp (hmatch ha)).2 h]
    exact grade_le_one hp (hmatch hb)
  · rw [decide_eq_true_iff] at hle h ⊢
    rw [← grade_eq_one_iff hp (hmatch hb)] at h
    exact (grade_eq_one_iff hp (hmatch ha)).1 (le_antisymm (grade_le_one hp (hmatch ha)) (h ▸ hle))

/-- Among the matches those that hold the pattern as one run have the highest score, which is one;
they come first, in the order of the candidates. -/
theorem rank_contiguous_first (hp : p ≠ []) (candidates : List Text) :
    (∀ c, isMatch p c = true → IsGreatest (similarities p.lower c.lower) (grade p c) ∧
      grade p c ≤ 1 ∧ (grade p c = 1 ↔ p.lower <:+: c.lower)) ∧
    ∃ others, rank p candidates = candidates.filter (fun c => p.lower <:+: c.lower) ++ others ∧
      ∀ c ∈ others, ¬ p.lower <:+: c.lower := by
  refine ⟨fun c h => ⟨isGreatest_grade hp h, grade_le_one hp h, grade_eq_one_iff hp h⟩,
    _, rank_eq_filter_append hp candidates, fun c hc => ?_⟩
  simpa using (List.mem_filter.1 hc).2

theorem rank_contiguous_first_doubles :
    let p : Text := "sC".toList
    let candidates : List Text :=
      ["StaticCode", "NoScoped", "GADTs", "Scoped", "NoScoped"].map String.toList
    p ≠ [] ∧ ∃ others,
      rank p candidates = ["NoScoped", "Scoped", "NoScoped"].map String.toList ++ others ∧
        ∀ c ∈ others, ¬ p.lower <:+: c.lower := by
  intro p candidates
  have hp : p ≠ [] := by decide
  obtain ⟨others, hrank, hothers⟩ := (rank_contiguous_first hp candidates).2
  have hruns : candidates.filter (fun c => p.lower <:+: c.lower) =
      ["NoScoped", "Scoped", "NoScoped"].map String.toList := by decide +kernel
  rw [hruns] at hrank
  exact ⟨hp, others, hrank, hothers⟩

end Ranking
end PragmaAssist
