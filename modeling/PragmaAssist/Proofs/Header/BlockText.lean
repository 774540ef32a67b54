import PragmaAssist.Proofs.Header.Blocks

/-! The scan of a header pragma that is given as a text. From whatever lines, the reader takes the
text on one line, and goes on with the lines below. -/
namespace PragmaAssist
namespace Header

theorem closer_not_occursIn {l u : Text} (hl : '#' ∉ l) (hu : u <:+: l) :
    Pragma.closer.occursIn u = false := by
  cases h : Pragma.closer.occursIn u with
  | false => rfl
  | true => exact absurd (((Text.occursIn_iff.1 h).trans hu).subset List.mem_cons_self) hl

theorem lines_opener (t : Text) :
    (Pragma.opener ++ t).lines = (Pragma.opener ++ t.lines.headD []) :: t.lines.tail := by
  simp [Pragma.opener, Text.lines_cons_eq, isLineBreak]

theorem trim_opener (t : Text) : (Pragma.opener ++ t).trim = Pragma.opener ++ t.trimEnd := by
  have hsolid : isBlank '{' = false ∧ isBlank '-' = false ∧ isBlank '#' = false := by decide
  simp [Pragma.opener, Text.trim_cons, Text.trimEnd_cons_solid, hsolid]

theorem lineKind_opener (t : Text) : LineKind.of (Pragma.opener ++ t) = .opens .pragma := rfl

theorem closer_occursIn_trimEnd (z : Text) :
    Pragma.closer.occursIn (z ++ Pragma.closer).trimEnd = true := by
  have hclose : z ++ Pragma.closer = (z ++ ['#', '-']) ++ ['}'] := by simp [Pragma.closer]
  rw [hclose, Text.trimEnd_concat (by decide), ← hclose, Text.occursIn_iff]
  exact (List.suffix_append z Pragma.closer).isInfix

theorem isBlock_lines {x : Text} (hx : '#' ∉ x) :
    IsBlock scanMargin .pragma (Pragma.opener ++ (x ++ Pragma.closer)).lines := by
  obtain ⟨inner, z, hlines, hinner, -⟩ :=
    Text.lines_append_unbroken (y := Pragma.closer) (by decide) (by decide) x
  have hfree : ∀ l ∈ inner, '#' ∉ l := fun l hl h => hx (hinner l hl h)
  have hdrop (t : Text) : (Pragma.opener ++ t).drop (scanMargin .pragma) = t := rfl
  rw [lines_opener]
  refine ⟨⟨_, _, rfl, by rw [trim_opener, lineKind_opener]⟩, ?_⟩
  rw [searched, trim_opener, hdrop, firstInLast_cons, hlines]
  cases inner with
  | nil => exact (if_pos (closer_occursIn_trimEnd z)).mpr rfl
  | cons l ls =>
    obtain ⟨hl, hls⟩ := List.forall_mem_cons.1 hfree
    have hopen := closer_not_occursIn hl (Text.trimEnd_prefix_self l).isInfix
    rw [List.cons_append, List.headD_cons, List.tail_cons,
      if_neg (by simp [BlockKind.closer, hopen])]
    refine ⟨ls, z ++ Pragma.closer, rfl, ?_, ?_⟩
    · exact fun m hm => closer_not_occursIn (hls m hm) List.infix_rfl
    · exact Text.occursIn_iff.2 (List.suffix_append z Pragma.closer).isInfix

/-- A pragma without another `#` in it is read as one text, whatever lines it is written on. -/
theorem scanFrom_pragma {x : Text} (hx : '#' ∉ x) (below : List Text) :
    scanFrom none ((Pragma.opener ++ (x ++ Pragma.closer)).lines ++ below) =
      (scanFrom none below).after [(Pragma.opener ++ (x ++ Pragma.closer)).onOneLine] := by
  rw [scanFrom_block (isBlock_lines hx), lines_opener, Text.onOneLine, lines_opener]
  simp only [BlockKind.collected, Text.intercalate_trim, List.headD_cons, List.tail_cons]

end Header
end PragmaAssist
