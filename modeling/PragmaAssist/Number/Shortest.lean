import PragmaAssist.Number.Binary64
import PragmaAssist.Text.Basic

/-! The shortest decimal that reads back as a given floating-point number, and its text:
positional for a decimal point close to the digits, else with an exponent. -/
namespace PragmaAssist
namespace Binary64

/-- The value `num / den` with the bounds `low / den` and `high / den`: what lies between them reads
back as the value, and the bounds themselves do if the interval is closed. -/
structure Interval where
  num : Nat
  low : Nat
  high : Nat
  den : Nat
  closed : Bool

/-- Half a unit to both sides of `m · 2 ^ e`, but a quarter below a power of two, where the
numbers are twice as dense. -/
def interval (m : Nat) (e : Int) : Interval :=
  let down := if m = Binary64.leastSignificand ∧ -1074 < e then 1 else 2
  let scale (k : Nat) : Nat × Nat := scaleQuotient 2 k 1 (e - 2)
  ⟨(scale (4 * m)).1, (scale (4 * m - down)).1, (scale (4 * m + 2)).1, (scale 1).2, m % 2 = 0⟩

def Interval.holds (i : Interval) (d : Nat) (k : Int) : Bool :=
  let (a, b) := scaleQuotient 10 (d * i.den) 1 k
  if i.closed then i.low * b ≤ a ∧ a ≤ i.high * b else i.low * b < a ∧ a < i.high * b

/-- The neighbour of the value on the grid of step `10 ^ k` that reads back, the nearer of two. -/
def Interval.onGrid? (i : Interval) (k : Int) : Option Nat :=
  let (a, b) := scaleQuotient 10 i.num i.den (-k)
  let d := a / b
  match i.holds d k, i.holds (d + 1) k with
  | true, true => some (if 2 * (a % b) < b ∨ (2 * (a % b) = b ∧ d % 2 = 0) then d else d + 1)
  | true, false => some d
  | false, true => some (d + 1)
  | false, false => none

def leadingZeros (num den : Nat) : Nat → Nat
  | 0 => 0
  | fuel + 1 => if den ≤ num * 10 then 0 else leadingZeros (num * 10) den fuel + 1

/-- How many digits stand before the point; negative for zeros right after it. -/
def pointPlace (num den : Nat) : Int :=
  if den ≤ num then (Nat.toDigits 10 (num / den)).length
  else -(leadingZeros num den 330 : Int)

/-- The first grid with a hit among those of `n`, `n + 1`, … digits. -/
def Interval.search (i : Interval) (place : Int) (n : Nat) : Nat → Nat × Int
  | 0 => (i.num / i.den, 0)
  | fuel + 1 =>
    match i.onGrid? (place - n) with
    | some d => (d, place - n)
    | none => i.search place (n + 1) fuel

def shortest (m : Nat) (e : Int) : Nat × Int :=
  let i := interval m e
  i.search (pointPlace i.num i.den) 1 17

/-- The exponent's sign is always written, and at least two digits of it. -/
def exponentText (e : Int) : Text :=
  let digits := Text.ofNat e.natAbs
  ['e', if e < 0 then '-' else '+'] ++ (if digits.length < 2 then '0' :: digits else digits)

/-- Digits with the point `place` digits from their start: written out from `0.0001` to below
`10 ^ 16`, else with an exponent. -/
def pointText (digits : Text) (place : Int) : Text :=
  if -4 < place ∧ place ≤ 16 then
    if place ≤ 0 then "0.".toList ++ List.replicate (-place).toNat '0' ++ digits
    else
      let whole := digits.take place.toNat
      let part := digits.drop place.toNat
      whole ++ List.replicate (place.toNat - whole.length) '0' ++ ['.']
        ++ (if part.isEmpty then ['0'] else part)
  else
    match digits with
    | [] => []
    | d :: part => d :: (if part.isEmpty then [] else '.' :: part) ++ exponentText (place - 1)

def text : Binary64 → Text
  | infinite negative => if negative then "-inf".toList else "inf".toList
  | finite negative m e =>
    let sign : Text := if negative then ['-'] else []
    if m = 0 then sign ++ "0.0".toList
    else
      let (d, k) := shortest m e
      let digits := Text.ofNat d
      let trimmed := (digits.reverse.dropWhile (· == '0')).reverse
      sign ++ pointText trimmed (digits.length + k)

end Binary64
end PragmaAssist
