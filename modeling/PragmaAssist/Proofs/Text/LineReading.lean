import PragmaAssist.Proofs.Text.LineBreaks
import Mathlib.Logic.ExistsUnique

/-! A text read as lines and the breaks behind them. There is just one such reading, so the lines of
two texts one behind the other are those of both, unless a break is cut in two between them. -/
namespace PragmaAssist

inductive LineBreak where
  | feed | carriageReturn | both
  deriving DecidableEq

def LineBreak.text : LineBreak → Text
  | feed => ['\n']
  | carriageReturn => ['\r']
  | both => ['\r', '\n']

structure LinePiece where
  line : Text
  ending : Option LineBreak
  deriving DecidableEq

namespace LinePiece

def text (p : LinePiece) : Text := p.line ++ p.ending.elim [] LineBreak.text

/-- The piece may stand before the text `below`: its line has no break, a line that nothing ends is
not empty and the last, and no line feed stands behind a carriage return that is a break alone. -/
structure Fits (p : LinePiece) (below : Text) : Prop where
  unbroken : p.line.Unbroken
  last : p.ending = none → p.line ≠ [] ∧ below = []
  alone : p.ending = some .carriageReturn → below.head? ≠ some '\n'

end LinePiece

namespace Text
variable {a b t : Text} {p : LinePiece} {ps qs : List LinePiece}

/-- The pieces make up the text, and each of them fits what stands behind it. -/
structure IsReading (ps : List LinePiece) (t : Text) : Prop where
  text_eq : ps.flatMap LinePiece.text = t
  fits : ∀ above p below, ps = above ++ p :: below → p.Fits (below.flatMap LinePiece.text)

theorem isReading_nil : IsReading [] [] := ⟨rfl, by simp⟩

theorem IsReading.cons (h : IsReading ps t) (hp : p.Fits t) : IsReading (p :: ps) (p.text ++ t) := by
  refine ⟨by rw [List.flatMap_cons, h.text_eq], fun above q below hsplit => ?_⟩
  rcases List.cons_eq_append_iff.1 hsplit with ⟨-, hq⟩ | ⟨above, -, hps⟩
  · obtain ⟨rfl, rfl⟩ := List.cons.inj hq
    rwa [h.text_eq]
  · exact h.fits above q below hps

theorem isReading_cons (h : IsReading (p :: ps) t) :
    ∃ r, t = p.text ++ r ∧ p.Fits r ∧ IsReading ps r := by
  refine ⟨ps.flatMap LinePiece.text, ?_, h.fits [] p ps rfl, rfl, fun above q below hsplit => ?_⟩
  · rw [← h.text_eq, List.flatMap_cons]
  · exact h.fits (p :: above) q below (by rw [hsplit]; rfl)

def consPiece (c : Char) : List LinePiece → List LinePiece
  | [] => [⟨[c], none⟩]
  | p :: ps => ⟨c :: p.line, p.ending⟩ :: ps

def reading : Text → List LinePiece
  | [] => []
  | '\r' :: '\n' :: r => ⟨[], some .both⟩ :: reading r
  | '\n' :: r => ⟨[], some .feed⟩ :: reading r
  | '\r' :: r => ⟨[], some .carriageReturn⟩ :: reading r
  | c :: r => consPiece c (reading r)

theorem reading_cons {c : Char} (r : Text) (hc : isLineBreak c = false) :
    reading (c :: r) = consPiece c (reading r) := by
  obtain ⟨hfeed, hreturn⟩ : c ≠ '\n' ∧ c ≠ '\r' := by simpa [isLineBreak] using hc
  rw [reading]
  · exact fun _ h => absurd h hreturn
  · exact hfeed
  · exact hreturn

theorem reading_return {r : Text} (h : r.head? ≠ some '\n') :
    reading ('\r' :: r) = ⟨[], some .carriageReturn⟩ :: reading r := by
  rw [reading]
  rintro r' rfl
  exact h rfl

theorem reading_append {below : Text} (h : p.Fits below) :
    reading (p.text ++ below) = p :: reading below := by
  obtain ⟨l, ending⟩ := p
  induction l with
  | nil =>
    cases ending with
    | none => exact absurd rfl (h.last rfl).1
    | some b =>
      cases b with
      | feed => rfl
      | carriageReturn => exact reading_return (h.alone rfl)
      | both => rfl
  | cons c l ih =>
    have hc : isLineBreak c = false := h.unbroken c List.mem_cons_self
    change reading (c :: (LinePiece.text ⟨l, ending⟩ ++ below)) = _
    rw [reading_cons _ hc]
    by_cases hl : l = [] ∧ ending = none
    · -- The character is all that is left of the text.
      obtain ⟨rfl, rfl⟩ := hl
      obtain rfl := (h.last rfl).2
      rfl
    · rw [ih ⟨fun x hx => h.unbroken x (List.mem_cons_of_mem c hx),
        fun he => ⟨fun hnil => hl ⟨hnil, he⟩, (h.last he).2⟩, h.alone⟩]
      rfl

theorem IsReading.eq_reading (h : IsReading ps t) : ps = t.reading := by
  induction ps generalizing t with
  | nil =>
    obtain rfl := h.text_eq
    rfl
  | cons p ps ih =>
    obtain ⟨r, rfl, hp, hr⟩ := isReading_cons h
    rw [reading_append hp, ← ih hr]

theorem IsReading.consPiece {c : Char} (h : IsReading ps t) (hc : isLineBreak c = false) :
    IsReading (consPiece c ps) (c :: t) := by
  cases ps with
  | nil =>
    obtain rfl := h.text_eq
    exact isReading_nil.cons (p := ⟨[c], none⟩)
      ⟨List.forall_mem_singleton.2 hc, fun _ => ⟨List.cons_ne_nil c [], rfl⟩, nofun⟩
  | cons p ps =>
    obtain ⟨r, rfl, hp, hr⟩ := isReading_cons h
    exact hr.cons (p := ⟨c :: p.line, p.ending⟩)
      ⟨List.forall_mem_cons.2 ⟨hc, hp.unbroken⟩,
        fun he => ⟨List.cons_ne_nil c p.line, (hp.last he).2⟩, hp.alone⟩

theorem isReading_reading (t : Text) : IsReading t.reading t := by
  have hempty : Unbroken [] := List.forall_mem_nil _
  fun_induction reading t with
  | case1 => exact isReading_nil
  | case2 r ih => exact ih.cons ⟨hempty, nofun, nofun⟩
  | case3 r ih => exact ih.cons ⟨hempty, nofun, nofun⟩
  | case4 r h ih =>
    refine ih.cons ⟨hempty, nofun, fun _ hhead => ?_⟩
    obtain ⟨r', rfl⟩ := List.head?_eq_some_iff.1 hhead
    exact h r' rfl
  | case5 c r h hfeed hreturn ih => exact ih.consPiece (by simp_all [isLineBreak])

theorem isReading_iff : IsReading ps t ↔ ps = t.reading :=
  ⟨IsReading.eq_reading, fun h => h ▸ isReading_reading t⟩

theorem map_line_reading (t : Text) : t.reading.map LinePiece.line = t.lines := by
  fun_induction reading t with
  | case1 => rfl
  | case2 r ih => rw [lines_crlf, List.map_cons, ih]
  | case3 r ih => rw [lines_break rfl (by simp), List.map_cons, ih]
  | case4 r h ih => rw [lines_break rfl fun r' _ => h r', List.map_cons, ih]
  | case5 c r h hfeed hreturn ih =>
    rw [lines_cons r (by simp_all [isLineBreak]), ← ih]
    cases reading r <;> rfl

theorem EndsLine.of_append {above below : Text} (h : EndsLine (above ++ below)) :
    EndsLine below := by
  induction above with
  | nil => exact h
  | cons c above ih => exact ih h.tail

theorem not_endsLine_unbroken {l : Text} (hl : l.Unbroken) (hne : l ≠ []) : ¬ l.EndsLine := by
  intro h
  have hlast := hl _ (List.getLast_mem hne)
  rw [EndsLine, List.getLast?_eq_some_getLast hne, Option.all_some] at h
  exact Bool.false_ne_true (hlast.symm.trans h)

theorem SplitsBreak.append (h : SplitsBreak a b) (t : Text) : SplitsBreak (t ++ a) b :=
  ⟨by rw [List.getLast?_append, h.1]; rfl, h.2⟩

theorem fits_append (hp : p.Fits a) (hends : EndsLine (p.text ++ a))
    (hcut : ¬ SplitsBreak (p.text ++ a) b) : p.Fits (a ++ b) := by
  refine ⟨hp.unbroken, fun he => ?_, fun he hhead => ?_⟩
  · obtain ⟨hne, rfl⟩ := hp.last he
    rw [LinePiece.text, he, Option.elim_none, List.append_nil, List.append_nil] at hends
    exact absurd hends (not_endsLine_unbroken hp.unbroken hne)
  · cases a with
    | nil =>
      refine hcut ⟨?_, hhead⟩
      simp [LinePiece.text, he, LineBreak.text]
    | cons c a => exact hp.alone he hhead

/-- A text that ends a line is read as before with another text behind it, if no break is cut in two
between them. -/
theorem IsReading.append (ha : IsReading ps a) (hb : IsReading qs b) (hends : a.EndsLine)
    (hcut : ¬ SplitsBreak a b) : IsReading (ps ++ qs) (a ++ b) := by
  induction ps generalizing a with
  | nil =>
    obtain rfl := ha.text_eq
    exact hb
  | cons p ps ih =>
    obtain ⟨r, rfl, hp, hr⟩ := isReading_cons ha
    have hrest := ih hr hends.of_append fun h => hcut (h.append p.text)
    rw [List.append_assoc]
    exact hrest.cons (fits_append hp hends hcut)

/-- Every text is read as lines and breaks in just one way, and its lines are those of the reading.
So the lines of two texts, the first of which ends a line, are those of both one after the other. -/
theorem lines_of_reading :
    (∀ t : Text, ∃! ps, IsReading ps t) ∧
      (∀ (t : Text) (ps : List LinePiece), IsReading ps t → t.lines = ps.map LinePiece.line) ∧
      ∀ a b : Text, a.EndsLine → ¬ SplitsBreak a b → lines (a ++ b) = a.lines ++ b.lines := by
  have hlines {t : Text} {ps : List LinePiece} (h : IsReading ps t) :
      t.lines = ps.map LinePiece.line := by
    rw [h.eq_reading, map_line_reading]
  refine ⟨fun t => ⟨t.reading, isReading_reading t, fun ps h => h.eq_reading⟩,
    fun t ps h => hlines h, fun a b hends hcut => ?_⟩
  have ha := isReading_reading a
  have hb := isReading_reading b
  rw [hlines (ha.append hb hends hcut), List.map_append, ← hlines ha, ← hlines hb]

theorem lines_of_reading_mixed :
    let a : Text := "x\r\n\r".toList
    let b : Text := "y\n\nz".toList
    let ps : List LinePiece := [⟨['x'], some .both⟩, ⟨[], some .carriageReturn⟩]
    IsReading ps a ∧ a.lines = ps.map LinePiece.line ∧ a.EndsLine ∧ ¬ SplitsBreak a b ∧
      lines (a ++ b) = a.lines ++ b.lines := by
  intro a b ps
  have hps : IsReading ps a := isReading_iff.2 (by decide)
  have hends : a.EndsLine := by decide
  have hcut : ¬ SplitsBreak a b := fun h => absurd h.2 (by decide)
  obtain ⟨-, hlines, happend⟩ := lines_of_reading
  exact ⟨hps, hlines a ps hps, hends, hcut, happend a b hends hcut⟩

end Text
end PragmaAssist
