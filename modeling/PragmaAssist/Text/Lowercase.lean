import PragmaAssist.Text.Blank
import PragmaAssist.Text.CaseTable

/-! Full lower-casing. Every character has its own lower case but capital sigma, which takes
its final form at the end of a word: after a cased letter and before none. -/
namespace PragmaAssist

def isCased (c : Char) : Bool := inRanges casedRanges c

def isCaseIgnorable (c : Char) : Bool := inRanges caseIgnorableRanges c

def CaseRange.lower? (r : CaseRange) (n : Nat) : Option Nat :=
  if r.first ≤ n ∧ n ≤ r.last ∧ (n - r.first) % r.stride = 0 then some (n + r.shift).toNat else none

def lowerSimple (c : Char) : Char :=
  match (lowerRanges.find? fun r => c.toNat ≤ r.last).bind (·.lower? c.toNat) with
  | some n => Char.ofNat n
  | none => c

/-- Capital I with a dot is the one character whose lower case has two. -/
def lowerChar (c : Char) : Text := if c = 'İ' then ['i', '\u0307'] else [lowerSimple c]

def casedFollows (t : Text) : Bool := (t.dropWhile isCaseIgnorable).head?.any isCased

/-- Lower case of a text whose last character before it that is not skipped has case iff `before`. -/
def lowerFrom (before : Bool) : Text → Text
  | [] => []
  | c :: r =>
    if c = 'Σ' then (if before && !casedFollows r then 'ς' else 'σ') :: lowerFrom true r
    else lowerChar c ++ lowerFrom (if isCaseIgnorable c then before else isCased c) r

namespace Text

def lower (t : Text) : Text := lowerFrom false t

end Text
end PragmaAssist
