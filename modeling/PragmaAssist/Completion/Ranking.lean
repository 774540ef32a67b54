import PragmaAssist.Text.Lowercase

/-! Which candidates match what was typed, and in what order they are offered. A candidate matches
if it holds the pattern's characters in order; it ranks by the best window of it, and a window by
the length of its longest common subsequence with the pattern. -/
namespace PragmaAssist
namespace Ranking

/-- One pass over the text: each character of the pattern takes its first occurrence. -/
def inOrder : (pattern text : Text) → Bool
  | [], _ => true
  | _ :: _, [] => false
  | a :: p, c :: t => if a = c then inOrder p t else inOrder (a :: p) t

def isMatch (pattern candidate : Text) : Bool := inOrder pattern.lower candidate.lower

/-- Put before a row of lengths, one per suffix of `w`, the row for one more character `a`. -/
def nextRow (a : Char) : (w : Text) → (row : List Nat) → List Nat
  | c :: w, old :: older :: row =>
    let next := nextRow a w (older :: row)
    (if a = c then older + 1 else max old (next.headD 0)) :: next
  | _, _ => [0]

/-- The lengths of the longest common subsequences of `s` with every suffix of `w`. -/
def row (s w : Text) : List Nat :=
  s.foldr (fun a r => nextRow a w r) (List.replicate (w.length + 1) 0)

def commonLength (s w : Text) : Nat := (row s w).headD 0

def runs (n : Nat) : Text → List Text
  | [] => []
  | c :: r => if n ≤ r.length + 1 then (c :: r).take n :: runs n r else []

/-- What is compared with a pattern of length `n`: every run of that length, and the shorter
pieces at both ends. -/
def windows (n : Nat) (t : Text) : List Text :=
  let short := (List.range (n - 1)).map (· + 1)
  short.map t.take ++ runs n t ++ short.map fun k => t.drop (t.length - k)

structure Score where
  num : Nat
  den : Nat
  deriving DecidableEq

def Score.le (a b : Score) : Bool := a.num * b.den ≤ b.num * a.den

def Score.max (a b : Score) : Score := if a.le b then b else a

def similarity (s w : Text) : Score := ⟨2 * commonLength s w, s.length + w.length⟩

def score (s t : Text) : Score :=
  (windows s.length t).foldl (fun best w => best.max (similarity s w)) ⟨0, 1⟩

/-- The matches of a pattern, best first and else in their order; an empty one leaves all as it
is. -/
def rank (pattern : Text) (candidates : List Text) : List Text :=
  let found := candidates.filter (isMatch pattern)
  if pattern.isEmpty then found
  else
    let scored := found.map fun c => (score pattern.lower c.lower, c)
    (scored.mergeSort fun a b => b.1.le a.1).map (·.2)

end Ranking
end PragmaAssist
