/-! Binary floating-point numbers of 53 significant bits, in exact natural-number arithmetic,
and the rounding of a decimal to the nearest of them. -/
namespace PragmaAssist

/-- `significand · 2 ^ exponent` with its sign, or an infinity. -/
inductive Binary64 where
  | finite (negative : Bool) (significand : Nat) (exponent : Int)
  | infinite (negative : Bool)
  deriving DecidableEq

/-- `num / den` rounded to the nearest integer, a half to the even neighbour. -/
def roundQuotient (num den : Nat) : Nat :=
  let q := num / den
  let r := num % den
  if den < 2 * r ∨ (den = 2 * r ∧ q % 2 = 1) then q + 1 else q

def scaleQuotient (base num den : Nat) (e : Int) : Nat × Nat :=
  match e with
  | .ofNat n => (num * base.pow n, den)
  | .negSucc n => (num, den * base.pow (n + 1))

namespace Binary64

def isZero : Binary64 → Bool
  | finite _ m _ => m == 0
  | infinite _ => false

/-- The largest `e` with `2 ^ e ≤ num / den`, for positive arguments. -/
def log2Quotient (num den : Nat) : Int :=
  let e : Int := (num.log2 : Int) - den.log2
  let (a, b) := scaleQuotient 2 num den (-e)
  if b ≤ a then e else e - 1

def leastSignificand : Nat := Nat.pow 2 52

/-- The number nearest to a positive quotient; the even one of two. -/
def ofQuotient (negative : Bool) (num den : Nat) : Binary64 :=
  let e := max (log2Quotient num den - 52) (-1074)
  let (a, b) := scaleQuotient 2 num den (-e)
  let m := roundQuotient a b
  let (m, e) := if m = 2 * leastSignificand then (leastSignificand, e + 1) else (m, e)
  if 971 < e then infinite negative else finite negative m e

/-- The number nearest to `digits · 10 ^ e`. Far outside the range of the format the answer is
known from the number of digits alone. -/
def ofDecimal (negative : Bool) (digits : Nat) (e : Int) : Binary64 :=
  let magnitude : Int := (Nat.toDigits 10 digits).length + e
  if digits = 0 ∨ magnitude < -330 then finite negative 0 (-1074)
  else if 310 < magnitude then infinite negative
  else
    let (num, den) := scaleQuotient 10 digits 1 e
    ofQuotient negative num den

end Binary64
end PragmaAssist
