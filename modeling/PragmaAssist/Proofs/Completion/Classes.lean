import PragmaAssist.Completion.Items
import PragmaAssist.Pragma
import PragmaAssist.Proofs.Text.LetterCase

/-! What is completed on a line. The rules lower-case all of the line, but its first characters up to
the case of ASCII letters decide, and a line that starts no pragma has nothing to complete. -/
namespace PragmaAssist
namespace Completion

def languageMark : Text := "\x7b-# language".toList

def optionsMark : Text := "\x7b-# options_ghc".toList

theorem languageMark_caseMark : languageMark.CaseMark := by decide

theorem optionsMark_caseMark : optionsMark.CaseMark := by decide

theorem Subject.ofLine_eq (line : Text) :
    Subject.ofLine line =
      if (line.take 12).map Char.toLower = languageMark then .extensions
      else if (line.take 15).map Char.toLower = optionsMark then .options
      else if line.startsWith Pragma.opener then .templates
      else .nothing := by
  have hlanguage : line.lower.startsWith languageMark = true ↔
      (line.take 12).map Char.toLower = languageMark :=
    Text.startsWith_lower_iff languageMark_caseMark line
  have hoptions : line.lower.startsWith optionsMark = true ↔
      (line.take 15).map Char.toLower = optionsMark :=
    Text.startsWith_lower_iff optionsMark_caseMark line
  simp only [← hlanguage, ← hoptions]
  rfl

/-- A capital I with a dot is none of ASCII, though its lower case starts with an `i`. -/
example : Subject.ofLine "\x7b-# OPTİONS_GHC".toList = .templates := by decide +kernel

theorem startsWith_opener_of_mark {line mark : Text} {n : Nat} (hmark : Pragma.opener <+: mark)
    (h : (line.take n).map Char.toLower = mark) : line.startsWith Pragma.opener = true := by
  obtain ⟨rest, rfl⟩ := hmark
  obtain ⟨top, bottom, hline, htop, -⟩ := List.map_eq_append_iff.1 h
  obtain rfl : top = Pragma.opener := eq_of_map_toLower_eq (by decide) htop
  rw [Text.startsWith_iff]
  exact (hline ▸ List.prefix_append Pragma.opener bottom).trans (List.take_prefix n line)

theorem Subject.ofLine_of_not_opener {line : Text} (h : line.startsWith Pragma.opener = false) :
    Subject.ofLine line = .nothing := by
  have hno {mark : Text} (hmark : Pragma.opener <+: mark) (n : Nat) :
      (line.take n).map Char.toLower ≠ mark := fun heq => by
    rw [startsWith_opener_of_mark hmark heq] at h
    exact Bool.noConfusion h
  rw [ofLine_eq, if_neg (hno (by decide) 12), if_neg (hno (by decide) 15), if_neg (by simp [h])]

/-- A provider that accepts just the lines that start a pragma loses nothing. -/
theorem items_of_gate (c : Catalog) (w : Option CursorWord) :
    (if w.any (·.line.startsWith Pragma.opener) then items c w else []) = items c w := by
  cases w with
  | none => rfl
  | some w =>
    rw [Option.any_some]
    cases h : w.line.startsWith Pragma.opener with
    | true => rfl
    | false => rw [items, Subject.ofLine_of_not_opener h]; rfl

end Completion
end PragmaAssist
