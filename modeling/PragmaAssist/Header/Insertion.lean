import PragmaAssist.Pragma
import PragmaAssist.Text.Blank
import PragmaAssist.Text.Lines

/-! Where a new header pragma goes: below the last shebang, the last options pragma and the last
extension pragma that start a line of their own, whichever ends lowest. -/
namespace PragmaAssist

/-- A place in a document: both numbers count from zero. -/
structure Position where
  line : Nat
  character : Nat
  deriving DecidableEq

structure Range where
  first : Position
  last : Position
  deriving DecidableEq

namespace Insertion

def lastIndex? (p : Text → Bool) : List Text → Option Nat
  | [] => none
  | l :: r =>
    match lastIndex? p r with
    | some i => some (i + 1)
    | none => if p l then some 0 else none

/-- `-`, then later a brace that ends the line and is the first one after that dash. -/
def closesBlock (line : Text) : Bool :=
  ((line.dropWhile (· ≠ '-')).dropWhile (· ≠ '}')) = ['}']

def isPragma (name line : Text) : Bool :=
  match line.after? Pragma.opener with
  | some r => r.trimStart.startsWith name
  | none => false

def blockLength : List Text → Nat
  | [] => 0
  | l :: r => if closesBlock l then 1 else blockLength r + 1

def endOfBlock (start : Int) (lines : List Text) : Int := start + blockLength lines

/-- One past the last line with the property. -/
def afterLine? (p : Text → Bool) (lines : List Text) : Option Nat :=
  (lastIndex? p lines).map (· + 1)

/-- One past the block that starts at the last line with the property. -/
def afterBlock? (p : Text → Bool) (lines : List Text) : Option Nat :=
  (lastIndex? p lines).map fun i => i + blockLength (lines.drop i)

def lastLineWith (p : Text → Bool) (lines : List Text) (line : Int) : Int :=
  match afterLine? p lines with
  | some n => max line n
  | none => line

def lastBlockWith (p : Text → Bool) (lines : List Text) (line : Int) : Int :=
  max line ((afterBlock? p lines).getD 0)

def afterPragma (name : Text) (lines : List Text) (line : Int) : Int :=
  lastBlockWith (isPragma name) lines line

def isShebang (line : Text) : Bool := line.startsWith ['#', '!']

def nextLine (contents : Text) : Nat :=
  let lines := contents.lines
  let shebang := (afterLine? isShebang lines).getD 0
  let options := (afterBlock? (isPragma PragmaKind.optionsGhc.name) lines).getD 0
  let extensions := (afterBlock? (isPragma PragmaKind.language.name) lines).getD 0
  max (max shebang options) extensions

/-- The line is what the three searches give one after the other, from the first line on. -/
theorem nextLine_eq (contents : Text) :
    (nextLine contents : Int) =
      afterPragma PragmaKind.language.name contents.lines
        (afterPragma PragmaKind.optionsGhc.name contents.lines
          (lastLineWith isShebang contents.lines 0)) := by
  simp only [nextLine, afterPragma, lastBlockWith, lastLineWith]
  cases afterLine? isShebang contents.lines with
  | none =>
    simp only [Option.getD_none]
    omega
  | some n =>
    simp only [Option.getD_some]
    omega

def range (contents : Option Text) : Range :=
  let p : Position := ⟨contents.elim 0 nextLine, 0⟩
  ⟨p, p⟩

theorem blockLength_le (lines : List Text) : blockLength lines ≤ lines.length := by
  induction lines with
  | nil => simp [blockLength]
  | cons l r ih =>
    rw [blockLength, List.length_cons]
    split
    · exact Nat.succ_le_succ (Nat.zero_le _)
    · exact Nat.succ_le_succ ih

theorem lastIndex?_lt {p : Text → Bool} {lines : List Text} {i : Nat}
    (h : lastIndex? p lines = some i) : i < lines.length := by
  induction lines generalizing i with
  | nil => simp [lastIndex?] at h
  | cons l r ih =>
    simp only [lastIndex?] at h
    split at h
    · rename_i j hj
      have := ih hj
      simp only [Option.some.injEq] at h
      simp only [List.length_cons]
      omega
    · split at h
      · simp only [Option.some.injEq] at h
        simp only [List.length_cons]
        omega
      · simp at h

end Insertion
end PragmaAssist
