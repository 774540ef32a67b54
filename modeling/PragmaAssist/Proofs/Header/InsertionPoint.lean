import PragmaAssist.Proofs.Header.Stacking
import PragmaAssist.Proofs.Text.LineBreaks

/-! Whether the editor knows the line that a new pragma goes on. It does unless the search ends
behind a last line that no break ends. -/
namespace PragmaAssist
namespace Insertion

theorem line_le_length (c : Text) : (range (some c)).first.line ≤ c.lines.length :=
  lineBehind_le c.lines

theorem line_eq_of_lt {c : Text} (h : c.breaks < (range (some c)).first.line) :
    (range (some c)).first.line = c.breaks + 1 := by
  have hle := line_le_length c
  have hlen := Text.length_lines c
  split at hlen <;> omega

/-- The insertion line is a line of the document unless it lies behind a last line that no break
ends. On a line of the document the pragma stands between the lines above and the lines below;
else it is glued to the end of the document. -/
theorem insertion_line_starts (c : Text) :
    let n := (range (some c)).first.line
    (n ≤ c.breaks ↔ c.EndsLine ∨ n < c.lines.length) ∧
      (n ≤ c.breaks → ∃ above below, c = above ++ below ∧ Text.CutsAt n above below ∧
        ∀ p, insertPragma p c = above ++ p.render ++ below) ∧
      (c.breaks < n → n = c.breaks + 1 ∧ ∀ p, insertPragma p c = c ++ p.render) := by
  intro n
  refine ⟨Text.le_breaks_iff (line_le_length c), fun hn => ?_, fun hn => ?_⟩
  · obtain ⟨above, below, hc, hcut, hinsert⟩ := Text.insertAtLine_of_le hn
    exact ⟨above, below, hc, hcut, fun p => hinsert p.render⟩
  · exact ⟨line_eq_of_lt hn, fun p => Text.insertAtLine_of_lt hn p.render⟩

theorem insertion_line_starts_between :
    let c : Text := "#!run\r\nmain".toList
    (range (some c)).first.line = 1 ∧ 1 ≤ c.breaks ∧
      ∃ above below, c = above ++ below ∧ Text.CutsAt 1 above below ∧
        ∀ p, insertPragma p c = above ++ p.render ++ below := by
  intro c
  have hn : 1 ≤ c.breaks := by decide
  exact ⟨by decide, hn, (insertion_line_starts c).2.1 hn⟩

/-- Behind a pragma at the very end of a document there is no line to go on. -/
theorem insertion_line_missing :
    let c : Text := "{-# LANGUAGE A #-}".toList
    ¬ (range (some c)).first.line ≤ c.breaks ∧
      insertPragma ⟨.language, "B".toList⟩ c =
        "{-# LANGUAGE A #-}{-# LANGUAGE B #-}\n".toList := by
  decide

end Insertion
end PragmaAssist
