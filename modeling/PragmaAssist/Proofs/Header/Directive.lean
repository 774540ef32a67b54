import PragmaAssist.Header.Insertion
import PragmaAssist.Proofs.Text.LineInsertion

/-! The line that a pragma is written on, as the search for the insertion line reads it. -/
namespace PragmaAssist

/-- The text stays on one line and ends no pragma. -/
def Text.FitsLine (t : Text) : Prop := ∀ c ∈ t, c ≠ '}' ∧ isLineBreak c = false

instance (t : Text) : Decidable t.FitsLine := List.decidableBAll _ t

theorem Text.FitsLine.append {a b : Text} (ha : a.FitsLine) (hb : b.FitsLine) :
    Text.FitsLine (a ++ b) := by
  intro c hc
  rcases List.mem_append.1 hc with hc | hc
  · exact ha c hc
  · exact hb c hc

namespace Pragma
variable {p : Pragma}

def inside (p : Pragma) : Text := ['-', '#', ' '] ++ p.body ++ [' ', '#', '-']

theorem directive_eq (p : Pragma) : p.directive = '{' :: (p.inside ++ ['}']) := by
  simp [directive, inside, opener, closer]

theorem fitsLine_inside (h : p.name.FitsLine) : p.inside.FitsLine := by
  have hopen : Text.FitsLine ['-', '#', ' '] := by decide
  have hclose : Text.FitsLine [' ', '#', '-'] := by decide
  obtain ⟨k, n⟩ := p
  cases k with
  | language =>
    have hkeyword : Text.FitsLine "LANGUAGE ".toList := by decide
    exact (hopen.append (hkeyword.append h)).append hclose
  | optionsGhc =>
    have hkeyword : Text.FitsLine "OPTIONS_GHC -Wno-".toList := by decide
    exact (hopen.append (hkeyword.append h)).append hclose

theorem directive_unbroken (h : p.name.Unbroken) : p.directive.Unbroken := by
  have hopen : Text.Unbroken (opener ++ [' ']) := by decide
  have hclose : Text.Unbroken (' ' :: closer) := by decide
  have hbody : p.body.Unbroken := by
    obtain ⟨k, n⟩ := p
    cases k with
    | language =>
      have hkeyword : Text.Unbroken "LANGUAGE ".toList := by decide
      exact hkeyword.append h
    | optionsGhc =>
      have hkeyword : Text.Unbroken "OPTIONS_GHC -Wno-".toList := by decide
      exact hkeyword.append h
  have hdirective : p.directive = (opener ++ [' ']) ++ (p.body ++ ' ' :: closer) := by
    simp [directive]
  rw [hdirective]
  exact hopen.append (hbody.append hclose)

theorem not_isLineBreak (h : p.name.FitsLine) : p.directive.Unbroken :=
  directive_unbroken fun c hc => (h c hc).2

theorem directive_ne_nil (p : Pragma) : p.directive ≠ [] := by
  simp [directive_eq]

theorem isShebang_directive (p : Pragma) : Insertion.isShebang p.directive = false := rfl

theorem isPragma_directive (p : Pragma) :
    Insertion.isPragma p.kind.name p.directive = true := by
  obtain ⟨k, n⟩ := p
  cases k <;> rfl

theorem closesBlock_directive (h : p.name.FitsLine) :
    Insertion.closesBlock p.directive = true := by
  -- The first dash is the second character, and everything up to the last brace is dropped.
  have hdash : p.directive.dropWhile (· ≠ '-') = p.inside ++ ['}'] := by
    rw [directive_eq]
    rfl
  have hbrace : (p.inside ++ ['}']).dropWhile (· ≠ '}') = ['}'] := by
    rw [List.dropWhile_append_of_pos fun c hc => by simpa using (fitsLine_inside h c hc).1]
    rfl
  rw [Insertion.closesBlock, hdash, hbrace]
  rfl

end Pragma
end PragmaAssist
