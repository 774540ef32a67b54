import PragmaAssist.Proofs.Text.LineBreaks
import PragmaAssist.Proofs.Text.Trimming

/-! A text of several lines written on one: each line is trimmed, and a blank stands for each break.
Blanks between two other characters become blanks, and nothing else changes. -/
namespace PragmaAssist
namespace Text

def continued (ls : List Text) : Text := ls.flatMap fun l => ' ' :: l.trim

def onOneLine (t : Text) : Text := (t.lines.headD []).trim ++ continued t.lines.tail

/-- As `onOneLine`, but the first line keeps the blanks at its front. -/
def restOnOneLine (t : Text) : Text := (t.lines.headD []).trimEnd ++ continued t.lines.tail

theorem intercalate_trim (l : Text) (below : List Text) :
    [' '].intercalate ((l :: below).map trim) = l.trim ++ continued below := by
  induction below generalizing l with
  | nil => simp [List.intercalate, continued]
  | cons m below ih =>
    rw [List.map_cons, List.map_cons, List.intercalate_cons_cons, ← List.map_cons, ih]
    simp [continued]

variable {c : Char}

theorem lines_cons_eq (hc : isLineBreak c = false) (t : Text) :
    lines (c :: t) = (c :: t.lines.headD []) :: t.lines.tail := by
  rw [lines_cons t hc]
  cases t.lines <;> rfl

theorem onOneLine_cons (hc : isBlank c = false) (t : Text) :
    onOneLine (c :: t) = c :: restOnOneLine t := by
  rw [onOneLine, lines_cons_eq (not_isLineBreak_of_not_isBlank hc), List.headD_cons, trim_cons hc]
  rfl

theorem restOnOneLine_cons (hc : isBlank c = false) (t : Text) :
    restOnOneLine (c :: t) = c :: restOnOneLine t := by
  rw [restOnOneLine, lines_cons_eq (not_isLineBreak_of_not_isBlank hc), List.headD_cons,
    trimEnd_cons_solid hc]
  rfl

theorem onOneLine_eq_rest (hc : isBlank c = false) (t : Text) :
    onOneLine (c :: t) = restOnOneLine (c :: t) := by
  rw [onOneLine_cons hc, restOnOneLine_cons hc]

theorem restOnOneLine_solid {x : Text} (hx : x.Solid) (t : Text) :
    restOnOneLine (x ++ t) = x ++ restOnOneLine t := by
  induction x with
  | nil => rfl
  | cons c x ih =>
    rw [List.cons_append, restOnOneLine_cons (hx c List.mem_cons_self),
      ih fun d hd => hx d (List.mem_cons_of_mem c hd), List.cons_append]

theorem onOneLine_of_lines {s t : Text} (hs : s.lines = [] :: t.lines) (ht : t ≠ []) :
    onOneLine s = ' ' :: onOneLine t ∧ restOnOneLine s = ' ' :: onOneLine t := by
  obtain ⟨l, ls, hls⟩ := List.exists_cons_of_ne_nil (lines_ne_nil ht)
  simp only [onOneLine, restOnOneLine, hs, hls]
  exact ⟨rfl, rfl⟩

theorem onOneLine_cons_blank (hb : isLineBreak c = false) (hc : isBlank c = true) (t : Text) :
    onOneLine (c :: t) = onOneLine t := by
  have htrim (l : Text) : Text.trim (c :: l) = l.trim := by
    rw [trim, trimStart, List.dropWhile_cons_of_pos hc]
    rfl
  rw [onOneLine, lines_cons_eq hb, List.headD_cons, htrim]
  rfl

theorem restOnOneLine_cons_blank (hb : isLineBreak c = false) (hc : isBlank c = true) (t : Text) :
    restOnOneLine (c :: t) = c :: restOnOneLine t ∨
      restOnOneLine (c :: t) = restOnOneLine t ∧ ∀ d r, t = d :: r → isBlank d = true := by
  simp only [restOnOneLine, lines_cons_eq hb, List.headD_cons, List.tail_cons, trimEnd_cons c, hc,
    and_true]
  by_cases hl : (t.lines.headD []).trimEnd = []
  · right
    rw [if_pos hl, hl]
    refine ⟨rfl, ?_⟩
    rintro d r rfl
    cases hd : isBlank d with
    | true => rfl
    | false =>
      -- The first line would start with a character that stays.
      rw [lines_cons_eq (not_isLineBreak_of_not_isBlank hd), List.headD_cons,
        trimEnd_cons_solid hd] at hl
      exact absurd hl (List.cons_ne_nil _ _)
  · left
    rw [if_neg hl, List.cons_append]

theorem Blank.tail {w : Text} (hw : Blank (c :: w)) : Blank w :=
  fun d hd => hw d (List.mem_cons_of_mem c hd)

theorem Blank.cons {w : Text} (hc : isBlank c = true) (hw : Blank w) : Blank (c :: w) :=
  List.forall_mem_cons.2 ⟨hc, hw⟩

theorem ne_feed_of_not_isBlank (hc : isBlank c = false) (t : Text) :
    ∀ t', c :: t ≠ '\n' :: t' := by
  rintro t' h
  obtain ⟨rfl, -⟩ := List.cons.inj h
  exact Bool.noConfusion hc

variable {w : Text}

/-- Blanks in front of another character go, up to one for each break among them. -/
theorem onOneLine_blank (hw : w.Blank) (hc : isBlank c = false) (t : Text) :
    ∃ u, Blank u ∧ onOneLine (w ++ c :: t) = u ++ onOneLine (c :: t) := by
  have hspace : isBlank ' ' = true := by decide
  have hne (r : Text) : r ++ c :: t ≠ [] := by simp
  induction w using breaks.induct with
  | case1 => exact ⟨[], by simp [Blank], rfl⟩
  | case2 r ih =>
    obtain ⟨u, hu, heq⟩ := ih hw.tail.tail
    have hlines := lines_crlf (r ++ c :: t)
    exact ⟨' ' :: u, hu.cons hspace, (onOneLine_of_lines hlines (hne r)).1.trans (by rw [heq]; rfl)⟩
  | case3 b r h hb ih =>
    obtain ⟨u, hu, heq⟩ := ih hw.tail
    have hlines := lines_break_append hb h fun _ => ne_feed_of_not_isBlank hc t
    exact ⟨' ' :: u, hu.cons hspace, (onOneLine_of_lines hlines (hne r)).1.trans (by rw [heq]; rfl)⟩
  | case4 b r h hb ih =>
    obtain ⟨u, hu, heq⟩ := ih hw.tail
    have hblank : isBlank b = true := hw b List.mem_cons_self
    exact ⟨u, hu, (onOneLine_cons_blank (by simpa using hb) hblank _).trans heq⟩

theorem restOnOneLine_blank (hw : w.Blank) (hc : isBlank c = false) (t : Text) :
    ∃ u, Blank u ∧ (u = [] → w = []) ∧
      restOnOneLine (w ++ c :: t) = u ++ restOnOneLine (c :: t) := by
  have hspace : isBlank ' ' = true := by decide
  have hne (r : Text) : r ++ c :: t ≠ [] := by simp
  induction w using breaks.induct with
  | case1 => exact ⟨[], by simp [Blank], fun _ => rfl, rfl⟩
  | case2 r ih =>
    obtain ⟨u, hu, heq⟩ := onOneLine_blank hw.tail.tail hc t
    have hlines := lines_crlf (r ++ c :: t)
    -- Behind a break the reader trims the next line on both sides.
    refine ⟨' ' :: u, hu.cons hspace, by simp, ?_⟩
    rw [← onOneLine_eq_rest hc]
    exact (onOneLine_of_lines hlines (hne r)).2.trans (by rw [heq]; rfl)
  | case3 b r h hb ih =>
    obtain ⟨u, hu, heq⟩ := onOneLine_blank hw.tail hc t
    have hlines := lines_break_append hb h fun _ => ne_feed_of_not_isBlank hc t
    refine ⟨' ' :: u, hu.cons hspace, by simp, ?_⟩
    rw [← onOneLine_eq_rest hc]
    exact (onOneLine_of_lines hlines (hne r)).2.trans (by rw [heq]; rfl)
  | case4 b r h hb ih =>
    obtain ⟨u, hu, hnil, heq⟩ := ih hw.tail
    have hblank : isBlank b = true := hw b List.mem_cons_self
    rcases restOnOneLine_cons_blank (by simpa using hb) hblank (r ++ c :: t) with hb | ⟨hb, hhead⟩
    · exact ⟨b :: u, hu.cons hblank, by simp, hb.trans (by rw [heq]; rfl)⟩
    · refine ⟨u, hu, fun hu => ?_, hb.trans heq⟩
      -- Without blanks behind it this one would stay.
      have hr := hnil hu
      rw [hr] at hhead
      exact absurd (hhead c t rfl) (by simp [hc])

theorem restOnOneLine_blank_solid (hw : w.Blank) {x : Text} (hx : x.Solid) (hne : x ≠ [])
    (t : Text) :
    ∃ u, Blank u ∧ (u = [] → w = []) ∧
      restOnOneLine (w ++ (x ++ t)) = u ++ (x ++ restOnOneLine t) := by
  obtain ⟨c, y, rfl⟩ := List.exists_cons_of_ne_nil hne
  obtain ⟨u, hu, hnil, heq⟩ := restOnOneLine_blank hw (hx c List.mem_cons_self) (y ++ t)
  exact ⟨u, hu, hnil, heq.trans (congrArg (u ++ ·) (restOnOneLine_solid hx t))⟩

end Text
end PragmaAssist
