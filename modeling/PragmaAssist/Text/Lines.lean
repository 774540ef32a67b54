import PragmaAssist.Text.Basic

/-! Lines. An editor ends a line at a line feed, a carriage return or the two together;
the output of a program is cut at the wider Unicode set. A break at the very end starts no line. -/
namespace PragmaAssist

namespace Text

/-- The lines of a text, where `isBreak` says which characters end a line; a carriage
return takes the line feed after it into the same break. -/
def linesAt (isBreak : Char → Bool) : Text → List Text
  | [] => []
  | '\r' :: '\n' :: r => [] :: linesAt isBreak r
  | c :: r =>
    if isBreak c then [] :: linesAt isBreak r
    else match linesAt isBreak r with
      | [] => [[c]]
      | l :: ls => (c :: l) :: ls

end Text

def isLineBreak (c : Char) : Bool := c == '\n' || c == '\r'

def isOutputBreak (c : Char) : Bool :=
  isLineBreak c || ['\x0b', '\x0c', '\x1c', '\x1d', '\x1e', '\u0085', '\u2028', '\u2029'].contains c

def Text.lines (t : Text) : List Text := t.linesAt isLineBreak

def Text.outputLines (t : Text) : List Text := t.linesAt isOutputBreak

/-- A document's text with every line break written as a line feed. -/
def Text.normaliseBreaks : Text → Text
  | [] => []
  | '\r' :: '\n' :: r => '\n' :: normaliseBreaks r
  | c :: r => (if c = '\r' then '\n' else c) :: normaliseBreaks r

end PragmaAssist
