import PragmaAssist.Text.Lines
import PragmaAssist.Text.Word

/-! Trimming of a text that is built from pieces with and without blanks. -/
namespace PragmaAssist

theorem inRanges_of_disjoint {a b : List (Nat × Nat)}
    (h : ∀ r ∈ a, ∀ s ∈ b, r.2 < s.1 ∨ s.2 < r.1) {c : Char} (hc : inRanges a c = true) :
    inRanges b c = false := by
  obtain ⟨r, hr, hrc⟩ := List.any_eq_true.1 hc
  simp only [Bool.and_eq_true, decide_eq_true_eq] at hrc
  rw [inRanges, List.any_eq_false]
  intro s hs
  simp only [Bool.and_eq_true, decide_eq_true_eq]
  have hrs := h r hr s hs
  omega

theorem isWordChar_of_isBlank {c : Char} (hc : isBlank c = true) : isWordChar c = false := by
  have hdisjoint : ∀ r ∈ blankRanges, ∀ s ∈ alphanumericRanges, r.2 < s.1 ∨ s.2 < r.1 := by
    decide +kernel
  have hne : c ≠ '_' := by
    rintro rfl
    exact Bool.noConfusion hc
  simp [isWordChar, hne, inRanges_of_disjoint hdisjoint hc]

theorem isBlank_of_isLineBreak {c : Char} (hc : isLineBreak c = true) : isBlank c = true := by
  simp only [isLineBreak, Bool.or_eq_true, beq_iff_eq] at hc
  rcases hc with rfl | rfl <;> decide

theorem not_isLineBreak_of_not_isBlank {c : Char} (hc : isBlank c = false) :
    isLineBreak c = false := by
  cases h : isLineBreak c with
  | false => rfl
  | true => exact absurd (isBlank_of_isLineBreak h) (by simp [hc])

namespace Text

def Blank (t : Text) : Prop := ∀ c ∈ t, isBlank c = true

def Solid (t : Text) : Prop := ∀ c ∈ t, isBlank c = false

instance (t : Text) : Decidable t.Blank := List.decidableBAll _ t

instance (t : Text) : Decidable t.Solid := List.decidableBAll _ t

theorem trimEnd_prefix_self (t : Text) : t.trimEnd <+: t := by
  rw [trimEnd, ← List.reverse_suffix, List.reverse_reverse]
  exact List.dropWhile_suffix isBlank

theorem trim_infix_self (t : Text) : t.trim <:+: t :=
  (trimEnd_prefix_self t.trimStart).isInfix.trans (List.dropWhile_suffix isBlank).isInfix

theorem trimStart_blank {w : Text} (hw : w.Blank) (t : Text) : (w ++ t).trimStart = t.trimStart :=
  List.dropWhile_append_of_pos hw

theorem trimStart_cons {c : Char} (hc : isBlank c = false) (t : Text) :
    Text.trimStart (c :: t) = c :: t := by
  simp [trimStart, hc]

/-- What is left starts with a mark just if there are only blanks in front of the mark. -/
theorem trimStart_eq_append_iff {mark t r : Text} (hmark : mark.Solid) (hne : mark ≠ []) :
    t.trimStart = mark ++ r ↔ ∃ gap : Text, gap.Blank ∧ t = gap ++ (mark ++ r) := by
  constructor
  · intro h
    refine ⟨t.takeWhile isBlank, fun c hc => ?_, ?_⟩
    · exact List.all_eq_true.1 List.all_takeWhile c hc
    · rw [← h, trimStart, List.takeWhile_append_dropWhile]
  · rintro ⟨gap, hgap, rfl⟩
    obtain ⟨c, m, rfl⟩ := List.exists_cons_of_ne_nil hne
    rw [trimStart_blank hgap]
    exact trimStart_cons (hmark c List.mem_cons_self) (m ++ r)

theorem trimStart_append {c : Char} (hc : isBlank c = false) (z t : Text) :
    (z ++ c :: t).trimStart = z.trimStart ++ c :: t := by
  rw [trimStart, trimStart, List.dropWhile_append]
  cases z.dropWhile isBlank <;> simp [hc]

theorem trimEnd_blank {w : Text} (hw : w.Blank) (t : Text) : (t ++ w).trimEnd = t.trimEnd := by
  have hw' : ∀ c ∈ w.reverse, isBlank c = true := fun c hc => hw c (List.mem_reverse.1 hc)
  rw [trimEnd, trimEnd, List.reverse_append, List.dropWhile_append_of_pos hw']

theorem trimEnd_concat {c : Char} (hc : isBlank c = false) (t : Text) :
    (t ++ [c]).trimEnd = t ++ [c] := by
  simp [trimEnd, hc]

theorem trimEnd_append {c : Char} (hc : isBlank c = false) (t z : Text) :
    (t ++ c :: z).trimEnd = t ++ c :: z.trimEnd := by
  have hrev : (t ++ c :: z).reverse = z.reverse ++ c :: t.reverse := by simp
  rw [trimEnd, hrev, ← trimStart, trimStart_append hc]
  simp [trimStart, trimEnd]

theorem trimEnd_cons (c : Char) (t : Text) :
    Text.trimEnd (c :: t) =
      if t.trimEnd = [] ∧ isBlank c = true then [] else c :: t.trimEnd := by
  simp only [trimEnd, List.reverse_cons, List.dropWhile_append, List.reverse_eq_nil_iff]
  cases hd : t.reverse.dropWhile isBlank with
  | nil => cases hc : isBlank c <;> simp [hc]
  | cons d r => simp

theorem trimEnd_cons_solid {c : Char} (hc : isBlank c = false) (t : Text) :
    Text.trimEnd (c :: t) = c :: t.trimEnd := by
  rw [trimEnd_cons, if_neg fun h => by simp [hc] at h]

theorem trim_cons {c : Char} (hc : isBlank c = false) (t : Text) :
    Text.trim (c :: t) = c :: t.trimEnd := by
  rw [trim, trimStart_cons hc, trimEnd_cons_solid hc]

theorem trimEnd_solid {x : Text} (hx : x.Solid) : x.trimEnd = x := by
  induction x with
  | nil => rfl
  | cons c x ih =>
    rw [trimEnd_cons_solid (hx c List.mem_cons_self),
      ih fun d hd => hx d (List.mem_cons_of_mem c hd)]

theorem trim_solid {x : Text} (hx : x.Solid) : x.trim = x := by
  cases x with
  | nil => rfl
  | cons c x =>
    rw [trim, trimStart_cons (hx c List.mem_cons_self), trimEnd_solid hx]

theorem trim_blank_append {a : Text} (ha : a.Blank) (x : Text) : (a ++ x).trim = x.trim := by
  rw [trim, trimStart_blank ha, trim]

theorem trim_append_blank {b : Text} (hb : b.Blank) (x : Text) : (x ++ b).trim = x.trim := by
  rw [trim, trim, trimStart, trimStart, List.dropWhile_append]
  cases hx : x.dropWhile isBlank with
  | nil =>
    have hdrop := trimStart_blank hb []
    rw [List.append_nil] at hdrop
    change trimEnd (b.trimStart) = _
    rw [hdrop]
    rfl
  | cons c r => exact trimEnd_blank hb (c :: r)

theorem trimEnd_eq_of_trim {t : Text} (h : t.trim = t) : t.trimEnd = t := by
  have hlength : t.length ≤ t.trimStart.length := by
    have hprefix := (trimEnd_prefix_self t.trimStart).length_le
    rwa [← trim, h] at hprefix
  have hstart : t.trimStart = t := (List.dropWhile_suffix isBlank).eq_of_length_le hlength
  rwa [trim, hstart] at h

theorem infix_trimStart_iff {mark t : Text} (hmark : mark.Solid) (hne : mark ≠ []) :
    mark <:+: t.trimStart ↔ mark <:+: t := by
  induction t with
  | nil => rfl
  | cons c t ih =>
    cases hc : isBlank c with
    | false => rw [trimStart_cons hc]
    | true =>
      have hdrop : trimStart (c :: t) = trimStart t := List.dropWhile_cons_of_pos hc
      rw [hdrop, ih, List.infix_cons_iff]
      refine ⟨.inr, fun h => h.resolve_left fun hstart => ?_⟩
      -- A mark that starts here would start with a blank.
      obtain ⟨d, m, rfl⟩ := List.exists_cons_of_ne_nil hne
      obtain ⟨rfl, -⟩ := List.cons_prefix_cons.1 hstart
      simp [hmark d List.mem_cons_self] at hc

theorem occursIn_trim {mark : Text} (hmark : mark.Solid) (hne : mark ≠ []) (t : Text) :
    mark.occursIn t.trim = mark.occursIn t := by
  have hmark' : Solid mark.reverse := fun c hc => hmark c (List.mem_reverse.1 hc)
  rw [Bool.eq_iff_iff, occursIn_iff, occursIn_iff, trim, trimEnd, ← List.reverse_infix,
    List.reverse_reverse]
  exact (infix_trimStart_iff hmark' (by simpa using hne)).trans
    (List.reverse_infix.trans (infix_trimStart_iff hmark hne))

end Text
end PragmaAssist
