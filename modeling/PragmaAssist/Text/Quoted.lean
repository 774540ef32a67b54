import PragmaAssist.Text.Blank
import PragmaAssist.Text.PrintableTable

/-! Quoted texts. Single quotes stand around a text, or double quotes if it has single ones and
no double one; what has no visible form is written as a backslash escape. -/
namespace PragmaAssist.Text

def hex (width n : Nat) : Text :=
  let digits := Nat.toDigits 16 n
  List.replicate (width - digits.length) '0' ++ digits

def quoteMark (t : Text) : Char := if '\'' ∈ t ∧ '"' ∉ t then '"' else '\''

def escape (mark c : Char) : Text :=
  if c = mark ∨ c = '\\' then ['\\', c]
  else if c = '\t' then ['\\', 't']
  else if c = '\n' then ['\\', 'n']
  else if c = '\r' then ['\\', 'r']
  else if !inRanges unprintableRanges c then [c]
  else if c.toNat ≤ 0xFF then ['\\', 'x'] ++ hex 2 c.toNat
  else if c.toNat ≤ 0xFFFF then ['\\', 'u'] ++ hex 4 c.toNat
  else ['\\', 'U'] ++ hex 8 c.toNat

def quote (t : Text) : Text :=
  let mark := quoteMark t
  mark :: t.flatMap (escape mark) ++ [mark]

def quoteAll (ts : List Text) : Text :=
  '[' :: (", ".toList).intercalate (ts.map quote) ++ [']']

end PragmaAssist.Text
