import PragmaAssist.Completion.Ranking
import Mathlib.Algebra.Order.Field.Basic
import Mathlib.Algebra.Order.Field.Rat
import Mathlib.Data.List.Infix
import Mathlib.Order.Bounds.Basic

/-! How alike a pattern and a text are. The score is the greatest similarity of the pattern with a
window of the text, and it is one just if the text holds the pattern as one run. -/
namespace PragmaAssist
namespace Ranking

section CommonLength

theorem nextRow_ne_nil (a : Char) (w : Text) (r : List Nat) : nextRow a w r ≠ [] := by
  unfold nextRow
  split <;> simp

theorem row_ne_nil (s w : Text) : row s w ≠ [] := by
  cases s with
  | nil => simp [row]
  | cons a s => exact nextRow_ne_nil a w (row s w)

theorem row_eq_cons (s w : Text) : row s w = commonLength s w :: (row s w).tail := by
  obtain ⟨n, r, h⟩ := List.exists_cons_of_ne_nil (row_ne_nil s w)
  rw [commonLength, h]
  rfl

theorem row_cons (s : Text) (c : Char) (w : Text) :
    row s (c :: w) = commonLength s (c :: w) :: row s w := by
  have htail : (row s (c :: w)).tail = row s w := by
    induction s with
    | nil => rfl
    | cons a s ih =>
      change (nextRow a (c :: w) (row s (c :: w))).tail = nextRow a w (row s w)
      rw [row_eq_cons s (c :: w), ih, row_eq_cons s w]
      rfl
  rw [row_eq_cons, htail]

theorem commonLength_nil_right (s : Text) : commonLength s [] = 0 := by
  cases s with
  | nil => rfl
  | cons a s => simp [commonLength, row, nextRow]

theorem commonLength_cons_cons (a c : Char) (s w : Text) :
    commonLength (a :: s) (c :: w) =
      if a = c then commonLength s w + 1
      else max (commonLength s (c :: w)) (commonLength (a :: s) w) := by
  change (nextRow a (c :: w) (row s (c :: w))).headD 0 =
    if a = c then commonLength s w + 1
    else max (commonLength s (c :: w)) ((nextRow a w (row s w)).headD 0)
  rw [row_cons, row_eq_cons s w]
  rfl

/-- The length of the longest texts that both texts hold in order. -/
def IsLongestCommon (s w : Text) (n : Nat) : Prop :=
  IsGreatest {k | ∃ u : Text, u.Sublist s ∧ u.Sublist w ∧ u.length = k} n

theorem isLongestCommon_zero {s w : Text} (h : ∀ u : Text, u.Sublist s → u.Sublist w → u = []) :
    IsLongestCommon s w 0 := by
  refine ⟨⟨[], List.nil_sublist s, List.nil_sublist w, rfl⟩, ?_⟩
  rintro k ⟨u, hs, hw, rfl⟩
  rw [h u hs hw, List.length_nil]

theorem isLongestCommon_commonLength (s w : Text) : IsLongestCommon s w (commonLength s w) := by
  induction s generalizing w with
  | nil => exact isLongestCommon_zero fun u hs _ => List.sublist_nil.1 hs
  | cons a s ih =>
    induction w with
    | nil =>
      rw [commonLength_nil_right]
      exact isLongestCommon_zero fun u _ hw => List.sublist_nil.1 hw
    | cons c w ihw =>
      rw [commonLength_cons_cons]
      split
      · rename_i hac
        subst hac
        obtain ⟨⟨u, hs, hw, hlength⟩, hmax⟩ := ih w
        refine ⟨⟨a :: u, hs.cons_cons a, hw.cons_cons a, congrArg (· + 1) hlength⟩, ?_⟩
        rintro k ⟨v, hs, hw, rfl⟩
        cases v with
        | nil => exact Nat.zero_le _
        | cons b v => exact Nat.succ_le_succ (hmax ⟨v, hs.tail, hw.tail, rfl⟩)
      · rename_i hac
        constructor
        · rcases max_choice (commonLength s (c :: w)) (commonLength (a :: s) w) with h | h
          · obtain ⟨u, hs, hw, hlength⟩ := (ih (c :: w)).1
            exact ⟨u, hs.cons a, hw, hlength.trans h.symm⟩
          · obtain ⟨u, hs, hw, hlength⟩ := ihw.1
            exact ⟨u, hs, hw.cons c, hlength.trans h.symm⟩
        · rintro k ⟨v, hs, hw, rfl⟩
          -- A common text that takes `a` takes it behind `c`.
          rcases List.sublist_cons_iff.1 hs with hs' | ⟨r, rfl, hr⟩
          · exact le_max_of_le_left ((ih (c :: w)).2 ⟨v, hs', hw, rfl⟩)
          · have hw' := (List.cons_sublist_cons'.1 hw).resolve_right fun h => hac h.1
            exact le_max_of_le_right (ihw.2 ⟨a :: r, hs, hw', rfl⟩)

end CommonLength

section Windows
variable {n : Nat} {t w : Text}

/-- A run of `n` characters, or a shorter piece at one of the ends. -/
def IsWindow (n : Nat) (t w : Text) : Prop :=
  (w <+: t ∨ w <:+ t) ∧ 0 < w.length ∧ w.length < n ∨ w <:+: t ∧ w.length = n

theorem mem_runs_iff (hn : 0 < n) : w ∈ runs n t ↔ w <:+: t ∧ w.length = n := by
  induction t with
  | nil =>
    rw [runs, List.infix_nil]
    constructor
    · exact fun h => absurd h List.not_mem_nil
    · rintro ⟨rfl, hlength⟩
      exact absurd hlength (Nat.ne_of_lt hn)
  | cons c t ih =>
    rw [runs]
    split
    · rename_i hle
      have hstart : w = (c :: t).take n ↔ w <+: c :: t ∧ w.length = n := by
        constructor
        · rintro rfl
          exact ⟨List.take_prefix n _, List.length_take_of_le hle⟩
        · rintro ⟨hfront, rfl⟩
          exact List.prefix_iff_eq_take.1 hfront
      rw [List.mem_cons, hstart, ih, List.infix_cons_iff, or_and_right]
    · rename_i hlt
      constructor
      · exact fun h => absurd h List.not_mem_nil
      · rintro ⟨hrun, rfl⟩
        exact absurd hrun.length_le hlt

theorem mem_pieces_iff {piece : Nat → Text} {P : Text → Prop} (ht : t ≠ [])
    (hlength : ∀ k, (piece k).length = min k t.length) (hpiece : ∀ k, P (piece k))
    (heq : ∀ w, P w → w = piece w.length) :
    w ∈ ((List.range (n - 1)).map (· + 1)).map piece ↔ P w ∧ 0 < w.length ∧ w.length < n := by
  have hpos : 0 < t.length := List.length_pos_of_ne_nil ht
  simp only [List.mem_map, List.mem_range]
  constructor
  · rintro ⟨_, ⟨i, hi, rfl⟩, rfl⟩
    rw [hlength]
    exact ⟨hpiece (i + 1), by omega, by omega⟩
  · rintro ⟨hP, h₁, h₂⟩
    exact ⟨w.length, ⟨w.length - 1, by omega, by omega⟩, (heq w hP).symm⟩

theorem mem_windows_iff (hn : 0 < n) (ht : t ≠ []) : w ∈ windows n t ↔ IsWindow n t w := by
  have hfront : w ∈ ((List.range (n - 1)).map (· + 1)).map t.take ↔
      w <+: t ∧ 0 < w.length ∧ w.length < n :=
    mem_pieces_iff ht (fun k => List.length_take) (fun k => List.take_prefix k t)
      fun w => List.prefix_iff_eq_take.1
  have hlength (k : Nat) : (t.drop (t.length - k)).length = min k t.length := by
    rw [List.length_drop]
    omega
  have hback : w ∈ ((List.range (n - 1)).map (· + 1)).map (fun k => t.drop (t.length - k)) ↔
      w <:+ t ∧ 0 < w.length ∧ w.length < n :=
    mem_pieces_iff ht hlength (fun k => List.drop_suffix _ t) fun w => List.suffix_iff_eq_drop.1
  rw [windows, List.mem_append, List.mem_append, hfront, mem_runs_iff hn, hback, IsWindow,
    or_and_right]
  exact or_right_comm

theorem exists_window (hn : 0 < n) (ht : t ≠ []) : ∃ w, IsWindow n t w := by
  have hpos : 0 < t.length := List.length_pos_of_ne_nil ht
  have hlength : (t.take n).length = min n t.length := List.length_take
  rcases Nat.lt_or_ge t.length n with hlt | hle
  · have hshort : 0 < (t.take n).length := hlength ▸ Nat.lt_min.2 ⟨hn, hpos⟩
    exact ⟨t.take n, .inl ⟨.inl (List.take_prefix n t), hshort, by omega⟩⟩
  · exact ⟨t.take n, .inr ⟨(List.take_prefix n t).isInfix, by omega⟩⟩

end Windows

namespace Score
variable {a b : Score}

def value (a : Score) : ℚ := a.num / a.den

theorem le_iff (ha : 0 < a.den) (hb : 0 < b.den) : a.le b = true ↔ a.value ≤ b.value := by
  have ha' : (0 : ℚ) < a.den := Nat.cast_pos.2 ha
  have hb' : (0 : ℚ) < b.den := Nat.cast_pos.2 hb
  rw [le, decide_eq_true_iff, value, value, div_le_div_iff₀ ha' hb']
  exact_mod_cast Iff.rfl

theorem max_spec (ha : 0 < a.den) (hb : 0 < b.den) :
    (a.max b = a ∨ a.max b = b) ∧ a.value ≤ (a.max b).value ∧ b.value ≤ (a.max b).value := by
  rw [Score.max]
  split
  · rename_i h
    exact ⟨.inr rfl, (le_iff ha hb).1 h, le_rfl⟩
  · rename_i h
    exact ⟨.inl rfl, le_rfl, le_of_not_ge (mt (le_iff ha hb).2 h)⟩

theorem isGreatest_foldl_max {f : Text → Score} {ws : List Text} (hf : ∀ w ∈ ws, 0 < (f w).den)
    (best : Score) (hbest : 0 < best.den) :
    let r := ws.foldl (fun best w => best.max (f w)) best
    0 < r.den ∧ IsGreatest (insert best.value {q | ∃ w ∈ ws, q = (f w).value}) r.value := by
  induction ws generalizing best with
  | nil => simpa using hbest
  | cons w ws ih =>
    have hw : 0 < (f w).den := hf w List.mem_cons_self
    obtain ⟨hone, hle, hle'⟩ := max_spec hbest hw
    have hden : 0 < (best.max (f w)).den := by
      rcases hone with h | h
      · rwa [h]
      · rwa [h]
    obtain ⟨hr, hmem, hupper⟩ := ih (fun v hv => hf v (List.mem_cons_of_mem w hv)) _ hden
    refine ⟨hr, ?_, ?_⟩
    · rcases hmem with hstart | ⟨v, hv, hvalue⟩
      · rcases hone with h | h
        · exact .inl (hstart.trans (congrArg value h))
        · exact .inr ⟨w, List.mem_cons_self, hstart.trans (congrArg value h)⟩
      · exact .inr ⟨v, List.mem_cons_of_mem w hv, hvalue⟩
    · rintro q (rfl | ⟨v, hv, rfl⟩)
      · exact hle.trans (hupper (Set.mem_insert _ _))
      · rcases List.mem_cons.1 hv with rfl | hv
        · exact hle'.trans (hupper (Set.mem_insert _ _))
        · exact hupper (.inr ⟨v, hv, rfl⟩)

end Score

section Score
variable {s t w : Text}

/-- The similarities of a pattern with the windows of a text: twice the length of the longest common
text over the length of both. -/
def similarities (s t : Text) : Set ℚ :=
  {q | ∃ w n, IsWindow s.length t w ∧ IsLongestCommon s w n ∧ q = 2 * n / (s.length + w.length)}

theorem similarity_value (s w : Text) :
    (similarity s w).value = 2 * commonLength s w / (s.length + w.length) := by
  simp [similarity, Score.value]

theorem mem_similarities_iff (hs : s ≠ []) (ht : t ≠ []) {q : ℚ} :
    q ∈ similarities s t ↔ ∃ w ∈ windows s.length t, q = (similarity s w).value := by
  have hn : 0 < s.length := List.length_pos_of_ne_nil hs
  simp only [mem_windows_iff hn ht, similarity_value]
  constructor
  · rintro ⟨w, n, hw, hcommon, rfl⟩
    exact ⟨w, hw, by rw [hcommon.unique (isLongestCommon_commonLength s w)]⟩
  · rintro ⟨w, hw, rfl⟩
    exact ⟨w, commonLength s w, hw, isLongestCommon_commonLength s w, rfl⟩

theorem similarity_den_pos (hs : s ≠ []) (w : Text) : 0 < (similarity s w).den :=
  Nat.add_pos_left (List.length_pos_of_ne_nil hs) w.length

theorem score_den_pos (hs : s ≠ []) (t : Text) : 0 < (score s t).den :=
  (Score.isGreatest_foldl_max (fun w _ => similarity_den_pos hs w) ⟨0, 1⟩ Nat.one_pos).1

theorem isGreatest_score (hs : s ≠ []) (ht : t ≠ []) :
    IsGreatest (similarities s t) (score s t).value := by
  have hn : 0 < s.length := List.length_pos_of_ne_nil hs
  have hzero : Score.value ⟨0, 1⟩ = 0 := zero_div _
  obtain ⟨-, hmem, hupper⟩ : _ ∧ IsGreatest _ (score s t).value :=
    Score.isGreatest_foldl_max (fun w _ => similarity_den_pos hs w) ⟨0, 1⟩ Nat.one_pos
  have hle {q : ℚ} (hq : q ∈ similarities s t) : q ≤ (score s t).value :=
    hupper (.inr ((mem_similarities_iff hs ht).1 hq))
  refine ⟨?_, fun q => hle⟩
  rcases hmem with hstart | hwindow
  · -- If no window does better than nothing, then any window does as well.
    obtain ⟨w, hw⟩ := exists_window hn ht
    have hsim : (similarity s w).value ∈ similarities s t :=
      (mem_similarities_iff hs ht).2 ⟨w, (mem_windows_iff hn ht).2 hw, rfl⟩
    have hnonneg : 0 ≤ (similarity s w).value := div_nonneg (Nat.cast_nonneg _) (Nat.cast_nonneg _)
    have hscore : (score s t).value = 0 := hstart.trans hzero
    rw [hscore]
    exact le_antisymm (hscore ▸ hle hsim) hnonneg ▸ hsim
  · exact (mem_similarities_iff hs ht).2 hwindow

theorem IsLongestCommon.le {n : Nat} (h : IsLongestCommon s w n) : n ≤ s.length ∧ n ≤ w.length := by
  obtain ⟨⟨u, hs, hw, rfl⟩, -⟩ := h
  exact ⟨hs.length_le, hw.length_le⟩

theorem IsLongestCommon.eq {n : Nat} (h : IsLongestCommon s w n) (hs : n = s.length)
    (hw : n = w.length) : s = w := by
  obtain ⟨⟨u, hus, huw, rfl⟩, -⟩ := h
  exact (hus.eq_of_length hs).symm.trans (huw.eq_of_length hw)

theorem isLongestCommon_self (s : Text) : IsLongestCommon s s s.length := by
  refine ⟨⟨s, List.Sublist.refl s, List.Sublist.refl s, rfl⟩, ?_⟩
  rintro k ⟨u, hu, -, rfl⟩
  exact hu.length_le

theorem similarities_le_one (hs : s ≠ []) {q : ℚ} (hq : q ∈ similarities s t) : q ≤ 1 := by
  obtain ⟨w, n, -, hcommon, rfl⟩ := hq
  have hn : 0 < s.length := List.length_pos_of_ne_nil hs
  have hpos : (0 : ℚ) < s.length + w.length := by exact_mod_cast Nat.add_pos_left hn w.length
  have hle : 2 * n ≤ s.length + w.length := by
    have := hcommon.le
    omega
  rw [div_le_one hpos]
  exact_mod_cast hle

theorem one_mem_similarities_iff (hs : s ≠ []) : 1 ∈ similarities s t ↔ s <:+: t := by
  have hn : 0 < s.length := List.length_pos_of_ne_nil hs
  constructor
  · rintro ⟨w, n, hwindow, hcommon, hone⟩
    have hpos : (0 : ℚ) < s.length + w.length := by exact_mod_cast Nat.add_pos_left hn w.length
    have hlength : s.length + w.length = 2 * n := by
      rw [eq_div_iff hpos.ne', one_mul] at hone
      exact_mod_cast hone
    have hle := hcommon.le
    rcases hwindow with ⟨-, -, hlt⟩ | ⟨hrun, -⟩
    · omega
    · rwa [hcommon.eq (by omega) (by omega)]
  · intro h
    have hpos : (0 : ℚ) < s.length := Nat.cast_pos.2 hn
    refine ⟨s, s.length, .inr ⟨h, rfl⟩, isLongestCommon_self s, ?_⟩
    rw [← two_mul, div_self (mul_pos two_pos hpos).ne']

theorem score_eq_one_iff (hs : s ≠ []) (ht : t ≠ []) : (score s t).value = 1 ↔ s <:+: t := by
  rw [← one_mem_similarities_iff hs]
  obtain ⟨hmem, hupper⟩ := isGreatest_score hs ht
  constructor
  · intro h
    exact h ▸ hmem
  · intro h
    exact le_antisymm (similarities_le_one hs hmem) (hupper h)

end Score
end Ranking
end PragmaAssist
