import PragmaAssist.Text.Lines

/-! Text put in at the start of a line. A new line of its own leaves all other lines as they were,
whichever breaks end them. -/
namespace PragmaAssist
namespace Text

/-- A text with `new` put in where line `n` starts; a line past the last one starts at the end. -/
def insertAtLine (new : Text) : (n : Nat) → (t : Text) → Text
  | 0, t => new ++ t
  | _ + 1, [] => new
  | n + 1, '\r' :: '\n' :: r => '\r' :: '\n' :: insertAtLine new n r
  | n + 1, c :: r => c :: insertAtLine new (if isLineBreak c then n else n + 1) r

def Unbroken (t : Text) : Prop := ∀ c ∈ t, isLineBreak c = false

def EndsLine (t : Text) : Prop := t.getLast?.all isLineBreak = true

/-- Line `n` starts behind a line break or with the text. -/
def StartsLine (t : Text) (n : Nat) : Prop := t.EndsLine ∨ n < t.lines.length

instance (t : Text) : Decidable t.Unbroken := List.decidableBAll _ t

instance (t : Text) : Decidable t.EndsLine := inferInstanceAs (Decidable (_ = true))

instance (t : Text) (n : Nat) : Decidable (t.StartsLine n) := inferInstanceAs (Decidable (_ ∨ _))

theorem Unbroken.append {a b : Text} (ha : a.Unbroken) (hb : b.Unbroken) :
    Text.Unbroken (a ++ b) :=
  List.forall_mem_append.2 ⟨ha, hb⟩

def consFirst (c : Char) : List Text → List Text
  | [] => [[c]]
  | l :: ls => (c :: l) :: ls

theorem lines_crlf (r : Text) : lines ('\r' :: '\n' :: r) = [] :: lines r := by
  simp [lines, linesAt]

theorem lines_break {c : Char} {r : Text} (hc : isLineBreak c = true)
    (h : ∀ r', c = '\r' → r = '\n' :: r' → False) : lines (c :: r) = [] :: lines r := by
  simp [lines, linesAt, hc]

theorem lines_cons {c : Char} (r : Text) (hc : isLineBreak c = false) :
    lines (c :: r) = consFirst c (lines r) := by
  have h : ∀ r', c = '\r' → r = '\n' :: r' → False := by
    rintro r' rfl
    simp [isLineBreak] at hc
  cases hr : linesAt isLineBreak r <;> simp [lines, linesAt, hc, hr, consFirst]

theorem lines_ne_nil {t : Text} (h : t ≠ []) : lines t ≠ [] := by
  unfold lines
  fun_cases linesAt isLineBreak t <;> simp_all

theorem lines_append_feed {l : Text} (hl : l.Unbroken) (t : Text) :
    lines (l ++ '\n' :: t) = l :: lines t := by
  induction l with
  | nil => exact lines_break rfl (by simp)
  | cons c l ih =>
    rw [List.cons_append, lines_cons _ (hl c List.mem_cons_self),
      ih fun x hx => hl x (List.mem_cons_of_mem c hx)]
    rfl

theorem EndsLine.tail {c : Char} {r : Text} (h : EndsLine (c :: r)) : EndsLine r := by
  cases r with
  | nil => rfl
  | cons d r => simpa [EndsLine] using h

theorem EndsLine.ne_nil {c : Char} {r : Text} (h : EndsLine (c :: r))
    (hc : isLineBreak c = false) : r ≠ [] := by
  rintro rfl
  simp [EndsLine, hc] at h

theorem StartsLine.of_lines_eq {t r : Text} {n : Nat} (hl : lines t = [] :: lines r)
    (he : EndsLine t → EndsLine r) (h : StartsLine t (n + 1)) : StartsLine r n := by
  refine h.imp he fun h => ?_
  simpa [hl] using h

theorem StartsLine.of_cons {c : Char} {r : Text} {n : Nat} (hc : isLineBreak c = false)
    (h : StartsLine (c :: r) (n + 1)) : lines r ≠ [] ∧ StartsLine r (n + 1) := by
  have hr : r ≠ [] := by
    rintro rfl
    rcases h with h | h
    · exact h.ne_nil hc rfl
    · simp [lines, linesAt, hc] at h
  refine ⟨lines_ne_nil hr, h.imp EndsLine.tail fun h => ?_⟩
  rw [lines_cons r hc] at h
  cases hls : lines r with
  | nil => exact absurd hls (lines_ne_nil hr)
  | cons l ls => simpa [hls, consFirst] using h

theorem insertAtLine_ne_feed {new r : Text} (hne : new ≠ []) (hnew : ∀ r', new ≠ '\n' :: r')
    (hr : ∀ r', r ≠ '\n' :: r') (n : Nat) (r' : Text) : insertAtLine new n r ≠ '\n' :: r' := by
  cases new with
  | nil => exact absurd rfl hne
  | cons a new => fun_cases insertAtLine (a :: new) n r <;> simp_all

theorem insertAtLine_ne_nil {new : Text} (hne : new ≠ []) (n : Nat) (t : Text) :
    insertAtLine new n t ≠ [] := by
  fun_cases insertAtLine new n t <;> simp_all

theorem EndsLine.cons {r : Text} (h : EndsLine r) (hr : r ≠ []) (c : Char) :
    EndsLine (c :: r) := by
  cases r with
  | nil => exact absurd rfl hr
  | cons d r => simpa [EndsLine] using h

theorem EndsLine.append {a b : Text} (ha : EndsLine a) (hb : EndsLine b) : EndsLine (a ++ b) := by
  unfold EndsLine at *
  rw [List.getLast?_append]
  cases h : b.getLast? with
  | none => simpa using ha
  | some d => simpa [h] using hb

theorem EndsLine.insertAtLine {new t : Text} (hnew : EndsLine new) (hne : new ≠ [])
    (ht : EndsLine t) (n : Nat) : EndsLine (insertAtLine new n t) := by
  fun_induction Text.insertAtLine new n t with
  | case1 t => exact hnew.append ht
  | case2 n => exact hnew
  | case3 n r ih =>
    have hr := insertAtLine_ne_nil hne n r
    exact ((ih (EndsLine.tail ht.tail)).cons hr _).cons (by simp) _
  | case4 n c r h ih => exact (ih ht.tail).cons (insertAtLine_ne_nil hne _ r) c

/-- A new line at the start of a line leaves the lines above and below as they are. -/
theorem lines_insertAtLine {l : Text} (hl : l.Unbroken) (hne : l ≠ [])
    {t : Text} {n : Nat} (hn : n ≤ t.lines.length) (hs : t.StartsLine n) :
    (insertAtLine (l ++ ['\n']) n t).lines = t.lines.take n ++ l :: t.lines.drop n := by
  fun_induction insertAtLine (l ++ ['\n']) n t with
  | case1 t => simpa using lines_append_feed hl t
  | case2 n => simp [lines, linesAt] at hn
  | case3 n r ih =>
    have hcr := lines_crlf r
    rw [hcr] at hn
    simpa [lines_crlf] using
      ih (by simpa using hn) (hs.of_lines_eq hcr fun h => EndsLine.tail h.tail)
  | case4 n c r h ih =>
    cases hc : isLineBreak c with
    | true =>
      simp only [hc, if_true] at ih ⊢
      have hr := lines_break hc h
      -- The new line must not complete a carriage return in front of it.
      have hfeed : ∀ r', c = '\r' → insertAtLine (l ++ ['\n']) n r = '\n' :: r' → False := by
        intro r' hcr
        refine insertAtLine_ne_feed (by simp) ?_ (fun r' => h r' hcr) n r'
        cases l with
        | nil => exact absurd rfl hne
        | cons a l =>
          rintro r' hr'
          obtain ⟨rfl, -⟩ := List.cons.inj hr'
          simpa [isLineBreak] using hl '\n' List.mem_cons_self
      rw [hr] at hn
      simpa [lines_break hc hfeed, hr] using
        ih (by simpa using hn) (hs.of_lines_eq hr EndsLine.tail)
    | false =>
      simp only [hc, Bool.false_eq_true, if_false] at ih ⊢
      obtain ⟨hr, hs'⟩ := hs.of_cons hc
      obtain ⟨l', ls, hls⟩ := List.exists_cons_of_ne_nil hr
      rw [lines_cons r hc, hls] at hn ⊢
      have := ih (by simpa [hls, consFirst] using hn) hs'
      rw [lines_cons _ hc, this, hls]
      rfl

theorem StartsLine.insertAtLine {l : Text} (hl : l.Unbroken) (hne : l ≠ [])
    {t : Text} {n : Nat} (hn : n ≤ t.lines.length) (hs : t.StartsLine n) :
    StartsLine (insertAtLine (l ++ ['\n']) n t) (n + 1) := by
  have hlines := lines_insertAtLine hl hne hn hs
  refine hs.imp (fun h => ?_) fun h => ?_
  · exact EndsLine.insertAtLine (by simp [EndsLine, isLineBreak]) (by simp) h n
  · rw [hlines]
    simp
    omega

end Text
end PragmaAssist
