import PragmaAssist.Pragma
import PragmaAssist.Text.Blank
import PragmaAssist.Text.Lines

/-! The module header: blank lines, shebangs, comments and pragmas before the first other line.
One pass over the lines collects the pragmas, with the block that is open as its only state. -/
namespace PragmaAssist
namespace Header

inductive BlockKind where
  | pragma | comment
  deriving DecidableEq

def BlockKind.closer : BlockKind → Text
  | pragma => Pragma.closer
  | comment => ['-', '}']

inductive LineKind where
  | skipped
  | opens (kind : BlockKind)
  | body
  deriving DecidableEq

def LineKind.of (line : Text) : LineKind :=
  if line.isEmpty || line.startsWith ['#', '!'] || line.startsWith ['-', '-'] then skipped
  else if line.startsWith Pragma.opener then opens .pragma
  else if line.startsWith ['{', '-'] then opens .comment
  else body

/-- How many characters of an opening line are passed before a closer is looked for. -/
def openingLength : Nat := 3

/-- A block that waits for its closer: how its first line starts, and its trimmed lines so far
joined by blanks. -/
structure OpenBlock where
  kind : BlockKind
  opening : Text
  text : Text
  deriving DecidableEq

def OpenBlock.start (kind : BlockKind) (line : Text) : OpenBlock :=
  ⟨kind, line.take openingLength, line⟩

def OpenBlock.add (b : OpenBlock) (line : Text) : OpenBlock :=
  { b with text := b.text ++ ' ' :: line }

def OpenBlock.collected (b : OpenBlock) : List Text :=
  match b.kind with
  | .pragma => [b.text]
  | .comment => []

inductive Ending where
  | body
  | exhausted
  | unterminated (b : OpenBlock)
  deriving DecidableEq

structure Scan where
  pragmas : List Text
  ending : Ending
  deriving DecidableEq

def Scan.after (s : Scan) (earlier : List Text) : Scan :=
  { s with pragmas := earlier ++ s.pragmas }

/-- Scans the lines inside the block `open?`, or between blocks. -/
def scanFrom : (open? : Option OpenBlock) → List Text → Scan
  | none, [] => ⟨[], .exhausted⟩
  | some b, [] => ⟨[], .unterminated b⟩
  | none, l :: r =>
    let line := l.trim
    match LineKind.of line with
    | .skipped => scanFrom none r
    | .body => ⟨[], .body⟩
    | .opens kind =>
      let b := OpenBlock.start kind line
      if kind.closer.occursIn (line.drop openingLength) then (scanFrom none r).after b.collected
      else scanFrom (some b) r
  | some b, l :: r =>
    let line := l.trim
    let b' := b.add line
    if b.kind.closer.occursIn line then (scanFrom none r).after b'.collected
    else scanFrom (some b') r

def scan (lines : List Text) : Scan := scanFrom none lines

/-- The pragmas of the header, each on one line, unless a block in it is never closed. -/
def pragmas (lines : List Text) : Except Failure (List Text) :=
  let s := scan lines
  match s.ending with
  | .unterminated b => .error (.unterminated b.opening)
  | _ => .ok s.pragmas

end Header
end PragmaAssist
