import PragmaAssist.Proofs.Text.LineInsertion

/-! The line breaks of a text. As many lines start behind the first one, which is one more than
the lines that are not empty at the very end. -/
namespace PragmaAssist
namespace Text

/-- The number of line breaks; a carriage return and the line feed after it are one. -/
def breaks : Text → Nat
  | [] => 0
  | '\r' :: '\n' :: r => breaks r + 1
  | c :: r => if isLineBreak c then breaks r + 1 else breaks r

/-- A carriage return stands at the end of the first text and its line feed in the second. -/
def SplitsBreak (above below : Text) : Prop := above.getLast? = some '\r' ∧ below.head? = some '\n'

theorem endsLine_cons_break {c : Char} {r : Text} (hc : isLineBreak c = true) :
    EndsLine (c :: r) ↔ EndsLine r := by
  cases r with
  | nil => simp [EndsLine, hc]
  | cons d r => simp [EndsLine]

theorem endsLine_cons {c : Char} {r : Text} (hc : isLineBreak c = false) :
    EndsLine (c :: r) ↔ r ≠ [] ∧ EndsLine r := by
  cases r with
  | nil => simp [EndsLine, hc]
  | cons d r => simp [EndsLine]

/-- Behind each break but one at the very end there is one more line. -/
theorem length_lines (t : Text) : t.lines.length = t.breaks + if t.EndsLine then 0 else 1 := by
  fun_induction breaks t with
  | case1 => rfl
  | case2 r ih =>
    have hends : EndsLine ('\r' :: '\n' :: r) ↔ EndsLine r :=
      (endsLine_cons_break rfl).trans (endsLine_cons_break rfl)
    rw [lines_crlf, List.length_cons, ih]
    simp only [hends]
    omega
  | case3 c r h hc ih =>
    rw [lines_break hc h, List.length_cons, ih]
    simp only [endsLine_cons_break hc]
    omega
  | case4 c r h hc ih =>
    have hc : isLineBreak c = false := by simpa using hc
    rw [lines_cons r hc]
    cases r with
    | nil => simp [consFirst, lines, linesAt, breaks, endsLine_cons hc]
    | cons d r =>
      -- The character joins the first line of the rest, and the count is the rest's.
      obtain ⟨l, ls, hls⟩ := List.exists_cons_of_ne_nil (lines_ne_nil (List.cons_ne_nil d r))
      rw [hls, List.length_cons] at ih
      rw [hls, consFirst, List.length_cons, ih]
      simp [endsLine_cons hc]

theorem le_breaks_iff {t : Text} {n : Nat} (h : n ≤ t.lines.length) :
    n ≤ t.breaks ↔ t.StartsLine n := by
  rw [StartsLine]
  have hlen := length_lines t
  by_cases he : t.EndsLine
  · rw [if_pos he] at hlen
    simp only [he, true_or, iff_true]
    omega
  · rw [if_neg he] at hlen
    simp only [he, false_or]
    omega

theorem lines_break_append {c : Char} {r t : Text} (hc : isLineBreak c = true)
    (h : ∀ r', c = '\r' → r = '\n' :: r' → False) (ht : r = [] → ∀ t', t ≠ '\n' :: t') :
    lines (c :: (r ++ t)) = [] :: lines (r ++ t) := by
  refine lines_break hc fun r' hcr hfeed => ?_
  cases r with
  | nil => exact ht rfl r' hfeed
  | cons d r =>
    obtain ⟨rfl, -⟩ := List.cons.inj hfeed
    exact h r hcr rfl

theorem lines_unbroken {t : Text} (hne : t ≠ []) (ht : t.Unbroken) :
    lines t = [t] := by
  induction t with
  | nil => exact absurd rfl hne
  | cons c t ih =>
    rw [lines_cons t (ht c List.mem_cons_self)]
    cases t with
    | nil => rfl
    | cons d t =>
      rw [ih (List.cons_ne_nil d t) fun x hx => ht x (List.mem_cons_of_mem c hx)]
      rfl

theorem unbroken_of_mem_lines {t l : Text} (h : l ∈ t.lines) : l.Unbroken := by
  induction t using breaks.induct generalizing l with
  | case1 => simp [lines, linesAt] at h
  | case2 r ih =>
    rw [lines_crlf] at h
    rcases List.mem_cons.1 h with rfl | h
    · exact List.forall_mem_nil _
    · exact ih h
  | case3 c r hcr hc ih =>
    rw [lines_break hc hcr] at h
    rcases List.mem_cons.1 h with rfl | h
    · exact List.forall_mem_nil _
    · exact ih h
  | case4 c r hcr hc ih =>
    have hc : isLineBreak c = false := by simpa using hc
    rw [lines_cons r hc] at h
    cases hr : lines r with
    | nil =>
      rw [hr, consFirst, List.mem_singleton] at h
      exact h ▸ List.forall_mem_singleton.2 hc
    | cons first others =>
      rw [hr] at h ih
      rcases List.mem_cons.1 h with rfl | h
      · exact List.forall_mem_cons.2 ⟨hc, ih List.mem_cons_self⟩
      · exact ih (List.mem_cons_of_mem first h)

theorem lines_append_unbroken {y : Text} (hne : y ≠ []) (hy : y.Unbroken) (t : Text) :
    ∃ inner z, (t ++ y).lines = inner ++ [z ++ y] ∧ (∀ l ∈ inner, l ⊆ t) ∧ z ⊆ t := by
  induction t using breaks.induct with
  | case1 => exact ⟨[], [], lines_unbroken hne hy, by simp, List.nil_subset []⟩
  | case2 r ih =>
    obtain ⟨inner, z, hlines, hinner, hz⟩ := ih
    have hr : r ⊆ '\r' :: '\n' :: r := fun c hc => by simp [hc]
    refine ⟨[] :: inner, z, ?_, ?_, fun c hc => hr (hz hc)⟩
    · exact (lines_crlf (r ++ y)).trans (by rw [hlines]; rfl)
    · exact List.forall_mem_cons.2 ⟨List.nil_subset _, fun l hl c hc => hr (hinner l hl hc)⟩
  | case3 b r h hb ih =>
    obtain ⟨inner, z, hlines, hinner, hz⟩ := ih
    have hr : r ⊆ b :: r := List.subset_cons_self b r
    have hfeed : ∀ y', y ≠ '\n' :: y' := by
      rintro y' rfl
      exact absurd (hy '\n' List.mem_cons_self) (by decide)
    refine ⟨[] :: inner, z, ?_, ?_, fun c hc => hr (hz hc)⟩
    · exact (lines_break_append hb h fun _ => hfeed).trans (by rw [hlines]; rfl)
    · exact List.forall_mem_cons.2 ⟨List.nil_subset _, fun l hl c hc => hr (hinner l hl hc)⟩
  | case4 b r h hb ih =>
    obtain ⟨inner, z, hlines, hinner, hz⟩ := ih
    have hb : isLineBreak b = false := by simpa using hb
    have hr : r ⊆ b :: r := List.subset_cons_self b r
    rw [List.cons_append, lines_cons _ hb, hlines]
    cases inner with
    | nil => exact ⟨[], b :: z, rfl, by simp, List.cons_subset_cons b hz⟩
    | cons l ls =>
      obtain ⟨hl, hls⟩ := List.forall_mem_cons.1 hinner
      refine ⟨(b :: l) :: ls, z, rfl, ?_, fun c hc => hr (hz hc)⟩
      exact List.forall_mem_cons.2
        ⟨List.cons_subset_cons b hl, fun l hl c hc => hr (hls l hl hc)⟩

theorem lines_append_feed_of_not_endsLine {t : Text} (ht : ¬ t.EndsLine) (below : Text) :
    lines (t ++ '\n' :: below) = t.lines ++ below.lines := by
  induction t using breaks.induct with
  | case1 => exact absurd rfl ht
  | case2 r ih =>
    have hr : ¬ EndsLine r := fun h =>
      ht ((endsLine_cons_break rfl).2 ((endsLine_cons_break rfl).2 h))
    have hlines := lines_crlf (r ++ '\n' :: below)
    rw [ih hr] at hlines
    rw [lines_crlf]
    exact hlines
  | case3 b r h hb ih =>
    have hr : ¬ EndsLine r := fun h => ht ((endsLine_cons_break hb).2 h)
    have hlines := lines_break_append (t := '\n' :: below) hb h fun hnil => absurd (hnil ▸ rfl) hr
    rw [ih hr] at hlines
    rw [lines_break hb h]
    exact hlines
  | case4 b r h hb ih =>
    have hb : isLineBreak b = false := by simpa using hb
    rw [List.cons_append, lines_cons _ hb, lines_cons _ hb]
    cases r with
    | nil =>
      rw [List.nil_append, lines_break rfl (by simp)]
      rfl
    | cons d r =>
      have hr : ¬ EndsLine (d :: r) := fun h =>
        ht ((endsLine_cons hb).2 ⟨List.cons_ne_nil d r, h⟩)
      obtain ⟨l, ls, hls⟩ := List.exists_cons_of_ne_nil (lines_ne_nil (List.cons_ne_nil d r))
      rw [ih hr, hls]
      rfl

theorem breaks_cons {c : Char} {r : Text} (h : ∀ r', c = '\r' → r = '\n' :: r' → False) :
    breaks (c :: r) = if isLineBreak c then breaks r + 1 else breaks r := by
  rw [breaks]
  exact h

theorem insertAtLine_cons {c : Char} {r : Text} (h : ∀ r', c = '\r' → r = '\n' :: r' → False)
    (new : Text) (n : Nat) :
    insertAtLine new (n + 1) (c :: r) =
      c :: insertAtLine new (if isLineBreak c then n else n + 1) r := by
  rw [insertAtLine]
  exact h

/-- A place where a text can be cut into its first `n` lines and the rest. -/
structure CutsAt (n : Nat) (above below : Text) : Prop where
  breaks_eq : above.breaks = n
  endsLine : above.EndsLine
  not_splitsBreak : ¬ SplitsBreak above below

theorem CutsAt.cons {n : Nat} {above below : Text} (h : CutsAt n above below) {c : Char}
    (hne : isLineBreak c = false → above ≠ [])
    (hfeed : ∀ r', c = '\r' → above ++ below = '\n' :: r' → False) :
    CutsAt (if isLineBreak c then n + 1 else n) (c :: above) below where
  breaks_eq := by
    have hc : ∀ r', c = '\r' → above = '\n' :: r' → False := by
      rintro r' hc rfl
      exact hfeed (r' ++ below) hc rfl
    rw [breaks_cons hc, h.breaks_eq]
  endsLine := by
    cases hc : isLineBreak c with
    | true => exact (endsLine_cons_break hc).2 h.endsLine
    | false => exact (endsLine_cons hc).2 ⟨hne hc, h.endsLine⟩
  not_splitsBreak := by
    rintro ⟨hlast, hhead⟩
    cases above with
    | nil =>
      obtain ⟨r', rfl⟩ := List.head?_eq_some_iff.1 hhead
      exact hfeed r' (by simpa using hlast) rfl
    | cons a above => exact h.not_splitsBreak ⟨by simpa using hlast, hhead⟩

theorem CutsAt.crlf {n : Nat} {above below : Text} (h : CutsAt n above below) :
    CutsAt (n + 1) ('\r' :: '\n' :: above) below where
  breaks_eq := by rw [breaks, h.breaks_eq]
  endsLine := (endsLine_cons_break rfl).2 ((endsLine_cons_break rfl).2 h.endsLine)
  not_splitsBreak := by
    rintro ⟨hlast, hhead⟩
    cases above with
    | nil => simp at hlast
    | cons a above => exact h.not_splitsBreak ⟨by simpa using hlast, hhead⟩

theorem cutsAt_zero (t : Text) : CutsAt 0 [] t := ⟨rfl, rfl, fun h => by simp [SplitsBreak] at h⟩

/-- A text put in at an editor's line goes where the lines above it end. -/
theorem insertAtLine_of_le {t : Text} {n : Nat} (hn : n ≤ t.breaks) :
    ∃ above below, t = above ++ below ∧ CutsAt n above below ∧
      ∀ new, insertAtLine new n t = above ++ new ++ below := by
  induction n, t using insertAtLine.induct with
  | case1 t => exact ⟨[], t, rfl, cutsAt_zero t, fun new => by rw [insertAtLine]; rfl⟩
  | case2 n => simp [breaks] at hn
  | case3 n r ih =>
    obtain ⟨above, below, rfl, hcut, hnew⟩ := ih (by simpa [breaks] using hn)
    exact ⟨_, below, rfl, hcut.crlf, fun new => by rw [insertAtLine, hnew]; rfl⟩
  | case4 n c r h ih =>
    rw [breaks_cons h] at hn
    cases hc : isLineBreak c with
    | true =>
      simp only [hc, if_true] at hn ih
      obtain ⟨above, below, rfl, hcut, hnew⟩ := ih (by omega)
      have hcons := hcut.cons (c := c) (by simp [hc]) h
      rw [hc, if_pos rfl] at hcons
      refine ⟨_, below, rfl, hcons, fun new => ?_⟩
      rw [insertAtLine_cons h, hc, if_pos rfl, hnew]
      rfl
    | false =>
      simp only [hc, Bool.false_eq_true, if_false] at hn ih
      obtain ⟨above, below, rfl, hcut, hnew⟩ := ih hn
      -- Line `n + 1` starts behind a break, so something stands above it.
      have habove : above ≠ [] := by
        rintro rfl
        simpa [breaks] using hcut.breaks_eq
      have hcons := hcut.cons (c := c) (fun _ => habove) h
      rw [hc, if_neg Bool.false_ne_true] at hcons
      refine ⟨_, below, rfl, hcons, fun new => ?_⟩
      rw [insertAtLine_cons h, hc, if_neg Bool.false_ne_true, hnew]
      rfl

theorem insertAtLine_of_lt {t : Text} {n : Nat} (hn : t.breaks < n) (new : Text) :
    insertAtLine new n t = t ++ new := by
  fun_induction insertAtLine new n t with
  | case1 t => omega
  | case2 n => rfl
  | case3 n r ih =>
    rw [breaks] at hn
    rw [ih (by omega)]
    rfl
  | case4 n c r h ih =>
    rw [breaks_cons h] at hn
    rw [ih (by split at hn <;> simp_all), List.cons_append]

end Text
end PragmaAssist
